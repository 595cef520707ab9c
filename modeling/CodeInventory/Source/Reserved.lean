namespace CodeInventory.Source

def reservedWords : List String :=
  ["if", "for", "while", "do", "switch", "case", "default", "try", "catch", "finally", "throw",
   "return", "break", "continue", "new", "this", "super", "extends", "implements", "import",
   "export", "from", "as", "typeof", "instanceof", "in", "of", "let", "var", "const"]

def isReserved (name : String) : Bool := reservedWords.contains name

/-- Names of one character and reserved words are left out of every category. -/
def isReportable (name : String) : Bool := decide (1 < name.length) && !isReserved name

end CodeInventory.Source
