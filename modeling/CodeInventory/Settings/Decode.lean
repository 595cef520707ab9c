import CodeInventory.Json.Value
import CodeInventory.Settings.Basic
import CodeInventory.Settings.Fault

namespace CodeInventory.Settings

open CodeInventory.Decimal CodeInventory.Document

/-- The two points in which kinds of documents differ: whether a list may have more items than there
are fields, and which value may stand beside the name of a format. -/
structure Dialect where
  ignoresSurplus : Bool
  isEmptyPayload : Value → Bool

abbrev Decoded := Except DecodeFault

def text : Value → Decoded String
  | .string value => .ok value
  | found => .error (.invalidType found "a string")

def flag : Value → Decoded Bool
  | .boolean value => .ok value
  | found => .error (.invalidType found "a boolean")

def texts : Value → Decoded (List String)
  | .array items => items.mapM text
  | found => .error (.invalidType found "a sequence")

def path : Value → Decoded Path
  | .string value => .ok (.ofString value)
  | found => .error (.invalidType found "path string")

def variant : String → Decoded Format
  | "markdown" => .ok .markdown
  | "json" => .ok .json
  | name => .error (.unknownVariant name)

def format (dialect : Dialect) : Value → Decoded Format
  | .string name => variant name
  | .table [(name, payload)] =>
    match variant name with
    | .ok found => if dialect.isEmptyPayload payload then .ok found else .error .notAVariant
    | .error fault => .error fault
  | _ => .error .notAVariant

abbrev Field (σ : Type) := String × (σ → Value → Decoded σ)

def setField {σ : Type} (fields : List (Field σ)) (sofar : σ) (entry : String × Value) :
    Decoded σ :=
  match fields.lookup entry.1 with
  | some set => set sofar entry.2
  | none => .ok sofar

def setItem {σ : Type} (sofar : σ) (pair : Field σ × Value) : Decoded σ := pair.1.2 sofar pair.2

/-- Reads the fields of a part of the settings. Keys are taken in the order they were written, so
the first fault in that order is the one reported; a key that is not known is passed over. A list
in place of a table gives the fields in their order, and a date counts as a table without any of
the keys. -/
def fields {σ : Type} (dialect : Dialect) (kind : String) (known : List (Field σ)) (start : σ) :
    Value → Decoded σ
  | .table entries => entries.foldlM (setField known) start
  | .array items =>
    if !dialect.ignoresSurplus && known.length < items.length then .error .surplusItems
    else (known.zip items).foldlM setItem start
  | .dateTime => .ok start
  | found => .error (.invalidType found ("struct " ++ kind))

structure PartialRoot where
  dir : Option String := none
  patterns : Option (List String) := none

def rootFields : List (Field PartialRoot) :=
  [("dir", fun root value => (text value).map fun dir => { root with dir := some dir }),
   ("patterns", fun root value =>
      (texts value).map fun patterns => { root with patterns := some patterns })]

/-- Both keys are needed. -/
def root (dialect : Dialect) (value : Value) : Decoded RootSettings := do
  let found ← fields dialect "RootConfig" rootFields {} value
  match value, found.dir, found.patterns with
  | _, some dir, some patterns => return ⟨dir, patterns⟩
  | .array items, _, _ => throw (.invalidLength items.length "struct RootConfig with 2 elements")
  | _, none, _ => throw (.missingField "dir")
  | _, _, none => throw (.missingField "patterns")

def projectFields : List (Field Settings) :=
  [("name", fun settings value =>
      (text value).map fun name => { settings with projectName := name })]

def scanFields : List (Field Settings) :=
  [("allow_missing_roots", fun settings value =>
      (flag value).map fun allow => { settings with allowMissingRoots := allow }),
   ("follow_links", fun settings value =>
      (flag value).map fun follow => { settings with followLinks := follow })]

def outputFields (dialect : Dialect) : List (Field Settings) :=
  [("path", fun settings value =>
      (path value).map fun path => { settings with outputPath := path }),
   ("format", fun settings value =>
      (format dialect value).map fun format => { settings with outputFormat := format })]

def settingsFields (dialect : Dialect) : List (Field Settings) :=
  [("project", fields dialect "ProjectConfig" projectFields),
   ("sources", fun settings value =>
      (root dialect value).map fun sources => { settings with sources }),
   ("benches", fun settings value =>
      (root dialect value).map fun benches => { settings with benches }),
   ("tests", fun settings value =>
      (root dialect value).map fun tests => { settings with tests }),
   ("scan", fields dialect "ScanConfig" scanFields),
   ("output", fields dialect "OutputConfig" (outputFields dialect))]

def decode (dialect : Dialect) (value : Value) : Decoded Settings :=
  fields dialect "Config" (settingsFields dialect) default value

def tomlDialect : Dialect where
  ignoresSurplus := true
  isEmptyPayload
    | .table [] => true
    | .array [] => true
    | _ => false

def jsonDialect : Dialect where
  ignoresSurplus := false
  isEmptyPayload
    | .null => true
    | _ => false

mutual

def valueOfJson : Json → Value
  | .null => .null
  | .boolean value => .boolean value
  | .number whole 0 => .integer whole
  | .number whole places => .real (.ofDecimal (decide (whole < 0)) whole.natAbs (-(places : Int)))
  | .string value => .string value
  | .array items => .array (valuesOfJson items)
  | .object entries => .table (entriesOfJson entries)

def valuesOfJson : List Json → List Value
  | [] => []
  | item :: rest => valueOfJson item :: valuesOfJson rest

def entriesOfJson : List (String × Json) → List (String × Value)
  | [] => []
  | (key, value) :: rest => (key, valueOfJson value) :: entriesOfJson rest

end

def ofJson (json : Json) : Decoded Settings := decode jsonDialect (valueOfJson json)

end CodeInventory.Settings
