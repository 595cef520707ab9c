import CodeInventory.Decimal.Shortest
import CodeInventory.Text.Quoted

namespace CodeInventory.Document

open CodeInventory.Decimal CodeInventory.Text

/-- Tables keep the order in which their keys were written. -/
inductive Value where
  | null
  | boolean (value : Bool)
  | integer (value : Int)
  | real (value : Binary64)
  | string (value : String)
  | dateTime
  | array (items : List Value)
  | table (entries : List (String × Value))

def Value.describe : Value → String
  | null => "null"
  | boolean value => "boolean `" ++ (if value then "true" else "false") ++ "`"
  | integer value => "integer `" ++ toString value ++ "`"
  | real value => "floating point `" ++ value.text ++ "`"
  | string value => "string " ++ quoted value
  | dateTime => "map"
  | array _ => "sequence"
  | table _ => "map"

end CodeInventory.Document
