import CodeInventory.Toml.Moment
import CodeInventory.Toml.Table

namespace CodeInventory.Toml

open CodeInventory.Document

def nestingLimit : Nat := 80

def isBareKey (c : Char) : Bool := c.isAlphanum || c == '_' || c == '-'

def simpleKey? (text : List Char) : Option (String × List Char) :=
  match text with
  | '"' :: _ | '\'' :: _ => shortString? text
  | _ =>
    match text.takeWhile isBareKey with
    | [] => none
    | key => some (String.ofList key, text.dropWhile isBareKey)

def key? (text : List Char) : Option ((List String × String) × List Char) := do
  let (first, text) ← simpleKey? (skipSpaces text)
  let (others, text) := collect
    (fun t => match skipSpaces t with
      | '.' :: rest => simpleKey? (skipSpaces rest)
      | _ => none)
    text
  let keys := first :: others
  if keys.length < nestingLimit then
    return ((keys.dropLast, keys.getLast?.getD first), skipSpaces text)
  else none

def array? (element : Reader Value) (text : List Char) : Option (Value × List Char) :=
  match skipGap text with
  | ']' :: rest => some (.array [], rest)
  | text => do
    let (first, text) ← element text
    let (others, text) := collect
      (fun t => match skipGap t with
        | ',' :: rest => element (skipGap rest)
        | _ => none)
      text
    match skipGap text with
    | ']' :: rest => return (.array (first :: others), rest)
    | ',' :: text =>
      match skipGap text with
      | ']' :: rest => return (.array (first :: others), rest)
      | _ => none
    | _ => none

def keyValue? (value : Reader Value) (text : List Char) :
    Option ((List String × String × Value) × List Char) := do
  let ((path, key), text) ← key? text
  match text with
  | '=' :: text =>
    let (found, rest) ← value (skipSpaces text)
    return ((path, key, found), rest)
  | _ => none

/-- Keys and values up to the closing brace. Unlike an array, the table may not spread over lines
or end in a comma. -/
def inlineTable? (value : Reader Value) (text : List Char) : Option (Value × List Char) :=
  match skipSpaces text with
  | '}' :: rest => some (.table [], rest)
  | text => do
    let (first, text) ← keyValue? value text
    let (others, text) := collect
      (fun t => match skipSpaces t with
        | ',' :: rest => keyValue? value rest
        | _ => none)
      text
    match skipSpaces text with
    | '}' :: rest => (inlineTable (first :: others)).map (·, rest)
    | _ => none

def number? (text : List Char) : Option (Value × List Char) :=
  ((afterMoment? text).map (.dateTime, ·)).or
    ((float? text).map fun (value, rest) => (.real value, rest)) |>.or
    ((specialFloat? text).map fun (value, rest) => (.real value, rest)) |>.or
    ((integer? text).map fun (value, rest) => (.integer value, rest))

def scalar? (text : List Char) : Option (Value × List Char) :=
  match text with
  | '"' :: _ | '\'' :: _ => (string? text).map fun (value, rest) => (.string value, rest)
  | 't' :: 'r' :: 'u' :: 'e' :: rest => some (.boolean true, rest)
  | 'f' :: 'a' :: 'l' :: 's' :: 'e' :: rest => some (.boolean false, rest)
  | _ => number? text

/-- A value with at most `depth` arrays and tables around any part of it. -/
def value? : (depth : Nat) → Reader Value
  | 0, '[' :: _ | 0, '{' :: _ => none
  | depth + 1, '[' :: rest => array? (value? depth) rest
  | depth + 1, '{' :: rest => inlineTable? (value? depth) rest
  | _, text => scalar? text

def headerKey? (brackets : List Char) (text : List Char) :
    Option ((List String × String) × List Char) := do
  let (key, text) ← key? text
  if text.take brackets.length = brackets then
    let rest ← restOfLine? (text.drop brackets.length)
    return (key, rest)
  else none

def statement? (text : List Char) : Option (Option Statement × List Char) :=
  match skipSpaces text with
  | [] => none
  | '[' :: '[' :: text =>
    (headerKey? [']', ']'] text).map fun ((path, key), rest) => (some (.arrayHeader path key), rest)
  | '[' :: text =>
    (headerKey? [']'] text).map fun ((path, key), rest) => (some (.header path key), rest)
  | text =>
    match restOfLine? text with
    | some rest => some (none, rest)
    | none => do
      let ((path, key, value), text) ← keyValue? (value? (nestingLimit - 1)) text
      let rest ← restOfLine? text
      return (some (.keyValue path key value), rest)

def byteOrderMark : Char := '\ufeff'

def parse (document : String) : Option Value :=
  let text := match document.toList with
    | c :: rest => if c = byteOrderMark then rest else c :: rest
    | [] => []
  let (statements, rest) := collect statement? text
  if (skipSpaces rest).isEmpty then assemble (statements.filterMap id) else none

end CodeInventory.Toml
