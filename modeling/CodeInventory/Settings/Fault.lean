import CodeInventory.Document.Value

namespace CodeInventory.Settings

open CodeInventory.Document

inductive DecodeFault where
  | missingField (name : String)
  | unknownVariant (name : String)
  | invalidType (found : Value) (expected : String)
  | invalidLength (length : Nat) (expected : String)
  | surplusItems
  | notAVariant

def DecodeFault.message : DecodeFault → String
  | missingField name => "missing field `" ++ name ++ "`"
  | unknownVariant name => "unknown variant `" ++ name ++ "`, expected `markdown` or `json`"
  | invalidType found expected => "invalid type: " ++ found.describe ++ ", expected " ++ expected
  | invalidLength length expected =>
    "invalid length " ++ toString length ++ ", expected " ++ expected
  | surplusItems => "too many items"
  | notAVariant => "wanted string or table"

inductive Section where
  | sources
  | benches
  | tests
  deriving DecidableEq

def Section.name : Section → String
  | sources => "sources"
  | benches => "benches"
  | tests => "tests"

inductive ValidationFault where
  | emptyDir (part : Section)
  | noPatterns (part : Section)
  | emptyOutputPath
  | unknownFormat (name : String)
  deriving DecidableEq

def ValidationFault.message : ValidationFault → String
  | emptyDir part => part.name ++ ".dir must not be empty"
  | noPatterns part => part.name ++ " needs at least one file pattern"
  | emptyOutputPath => "output.path must not be empty"
  | unknownFormat name => "unknown output format: " ++ name

end CodeInventory.Settings
