import CodeInventory.NameSet
import CodeInventory.Source.Shape

namespace CodeInventory.Source

open Skip

/-- The quote that closes a label may be of either kind. -/
def isQuote (c : Char) : Bool := c == '\'' || c == '"'

def labelShape (call : Skip) : Shape where
  lead := call ++ word ['('] ++ blanks ++ one isQuote
  captured := fun c => !isQuote c
  tail := one isQuote

def benchmarkShape : Shape := labelShape (word "bench".toList)

def suiteShape : Shape := labelShape (word "describe".toList)

def behaviorShape : Shape := labelShape (either (word "it".toList) (word "test".toList))

def benchmarks (text : String) : NameSet :=
  NameSet.ofList (benchmarkShape.capturesIn text ++ suiteShape.capturesIn text)

def behaviors (text : String) : List String := behaviorShape.capturesIn text

end CodeInventory.Source
