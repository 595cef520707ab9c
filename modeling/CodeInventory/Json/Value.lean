namespace CodeInventory

/-- A number is a whole number divided by a power of ten. -/
inductive Json where
  | null
  | boolean (value : Bool)
  | number (whole : Int) (places : Nat)
  | string (value : String)
  | array (items : List Json)
  | object (fields : List (String × Json))
  deriving Inhabited

namespace Json

def nat (n : Nat) : Json := number n 0

def strings (texts : List String) : Json := array (texts.map string)

end Json

end CodeInventory
