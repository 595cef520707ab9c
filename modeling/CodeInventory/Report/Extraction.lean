import CodeInventory.Json.Value
import CodeInventory.Source.Symbols

namespace CodeInventory.Report

open CodeInventory.Source

def string? : Json → Option String
  | .string value => some value
  | _ => none

def strings? : Json → Option (List String)
  | .array items => items.mapM string?
  | _ => none

def names? (json : Json) : Option NameSet := (strings? json).map NameSet.ofList

def field? (key : String) (fields : List (String × Json)) : Option NameSet :=
  (fields.lookup key).bind names?

/-- An object with a field for each kind, or a list of the six in their order. Sets may come in any
order and with repetitions. -/
def symbols? : Json → Option SymbolSet
  | .object fields => do
    return {
      functions := ← field? "functions" fields
      classes := ← field? "classes" fields
      interfaces := ← field? "interfaces" fields
      types := ← field? "types" fields
      constants := ← field? "constants" fields
      exports := ← field? "exports" fields }
  | .array [functions, classes, interfaces, types, constants, exports] => do
    return {
      functions := ← names? functions
      classes := ← names? classes
      interfaces := ← names? interfaces
      types := ← names? types
      constants := ← names? constants
      exports := ← names? exports }
  | _ => none

end CodeInventory.Report
