namespace CodeInventory.Glob

inductive ClassItem where
  | single (c : Char)
  | range (low high : Char)
  deriving DecidableEq

def ClassItem.contains : ClassItem → Char → Bool
  | single c, d => c == d
  | range low high, d => decide (low ≤ d) && decide (d ≤ high)

/-- Written `?`, `*`, `[ab-d]` or `[!ab-d]`, and `**` for any run of components. -/
inductive Element where
  | literal (c : Char)
  | anyChar
  | inside (items : List ClassItem)
  | outside (items : List ClassItem)
  | anySequence
  | anyComponents
  deriving DecidableEq

abbrev Pattern := List Element

inductive Fault where
  | wildcardRun
  | partialComponent
  | unclosedClass
  deriving DecidableEq

structure PatternError where
  position : Nat
  fault : Fault
  deriving DecidableEq

def Fault.message : Fault → String
  | wildcardRun => "wildcards are either regular `*` or recursive `**`"
  | partialComponent => "recursive wildcards must form a single path component"
  | unclosedClass => "invalid range pattern"

def PatternError.message (error : PatternError) : String :=
  "Pattern syntax error near position " ++ toString error.position ++ ": " ++ error.fault.message

end CodeInventory.Glob
