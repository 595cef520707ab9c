import CodeInventory.NameSet
import CodeInventory.Text.Word
import CodeInventory.Source.Reserved
import CodeInventory.Source.Shape

namespace CodeInventory.Source

open CodeInventory.Text Skip

def declaration (lead tail : Skip) : Shape := ⟨lead, isWord, tail⟩

def nothing : Skip := word []

def exportedOr (lead : Skip) : Skip := optional (keyword "export") ++ lead

def functionShape : Shape :=
  declaration (exportedOr (optional (keyword "async") ++ keyword "function")) (mark ['('])

def classShape : Shape := declaration (exportedOr (keyword "class")) nothing

def interfaceShape : Shape := declaration (exportedOr (keyword "interface")) nothing

def typeShape : Shape := declaration (exportedOr (keyword "type")) (mark ['='])

def constantShape : Shape := declaration (exportedOr (keyword "const")) (mark [':', '='])

/-- `const name = (`, most likely a function in disguise -/
def functionValueShape : Shape := declaration (keyword "const") (mark ['='] ++ mark ['('])

def exportShape : Shape :=
  declaration
    (keyword "export" ++
      either (keyword "const") (either (keyword "function") (either (keyword "class")
        (either (keyword "interface") (keyword "type")))))
    nothing

structure SymbolSet where
  functions : NameSet
  classes : NameSet
  interfaces : NameSet
  types : NameSet
  constants : NameSet
  exports : NameSet
  deriving DecidableEq, Inhabited

namespace SymbolSet

/-- Functions, classes and interfaces, the kinds that project totals count. -/
def primaryCount (symbols : SymbolSet) : Nat :=
  symbols.functions.size + symbols.classes.size + symbols.interfaces.size

/-- The sizes of the non-empty kinds, in display order. Exports are not a kind of their own. -/
def categoryCounts (symbols : SymbolSet) : List (String × Nat) :=
  [("classes", symbols.classes.size), ("interfaces", symbols.interfaces.size),
   ("functions", symbols.functions.size), ("types", symbols.types.size),
   ("constants", symbols.constants.size)].filter fun entry => entry.2 ≠ 0

def isEmpty (symbols : SymbolSet) : Bool :=
  symbols.categoryCounts.isEmpty && symbols.exports.isEmpty

end SymbolSet

def reportable (names : List String) : NameSet := NameSet.ofList (names.filter isReportable)

/-- Declarations are recognised by their shape alone, so those inside comments and string literals
count too. A constant that the text anywhere binds to a parenthesised value is no constant. -/
def classify (text : String) : SymbolSet where
  functions := reportable (functionShape.capturesIn text)
  classes := reportable (classShape.capturesIn text)
  interfaces := reportable (interfaceShape.capturesIn text)
  types := reportable (typeShape.capturesIn text)
  constants :=
    let functionValues := functionValueShape.capturesIn text
    reportable ((constantShape.capturesIn text).filter fun name => !functionValues.contains name)
  exports := reportable (exportShape.capturesIn text)

end CodeInventory.Source
