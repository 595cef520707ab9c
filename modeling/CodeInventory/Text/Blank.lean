import CodeInventory.Text.Ranges

namespace CodeInventory.Text

/-- White space as text standards define it: the next-line control included, zero-width characters
not. -/
def blankRanges : Ranges :=
  [(0x9, 0xd), (0x20, 0x20), (0x85, 0x85), (0xa0, 0xa0), (0x1680, 0x1680), (0x2000, 0x200a),
   (0x2028, 0x2029), (0x202f, 0x202f), (0x205f, 0x205f), (0x3000, 0x3000)]

def isBlank (c : Char) : Bool := blankRanges.contains c.toNat

def allBlank (text : String) : Bool := text.toList.all isBlank

end CodeInventory.Text
