import CodeInventory.Glob.Pattern

namespace CodeInventory.Glob

/-- The answer of a search. Once an element that needs a character finds none, the search is
`exhausted`: no shorter text can match either, so it is given up as a whole. -/
inductive Outcome where
  | found
  | mismatch
  | exhausted
  deriving DecidableEq

def Element.accepts : Element → Char → Bool
  | .literal c, d => c == d
  | .anyChar, _ => true
  | .inside items, d => items.any (·.contains d)
  | .outside items, d => !items.any (·.contains d)
  | .anySequence, _ => false
  | .anyComponents, _ => false

/-- Tries the rest of a pattern on a text, on its ends after a character that `stops`, and last on
the empty text, until the answer is not a plain mismatch. -/
def tryEnds (rest : List Char → Outcome) (stops : Char → Bool) (here : Bool) :
    List Char → Outcome
  | [] => rest []
  | c :: text =>
    match if here then rest (c :: text) else .mismatch with
    | .mismatch => tryEnds rest stops (stops c) text
    | outcome => outcome

def search : Pattern → List Char → Outcome
  | [], [] => .found
  | [], _ :: _ => .mismatch
  | .anySequence :: rest, text => tryEnds (search rest) (fun _ => true) true text
  | .anyComponents :: rest, text => tryEnds (search rest) (· == '/') true text
  | _ :: _, [] => .exhausted
  | element :: rest, c :: text => if element.accepts c then search rest text else .mismatch

def Pattern.accepts (pattern : Pattern) (text : String) : Bool :=
  search pattern text.toList = .found

end CodeInventory.Glob
