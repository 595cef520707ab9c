import CodeInventory.Json.Value

namespace CodeInventory.Json

def hexDigitsPadded (n : Nat) : List Char :=
  let digits := Nat.toDigits 16 n
  List.replicate (4 - digits.length) '0' ++ digits

def escapedChar (c : Char) : List Char :=
  if c = '"' then ['\\', '"']
  else if c = '\\' then ['\\', '\\']
  else if c = '\x08' then ['\\', 'b']
  else if c = '\t' then ['\\', 't']
  else if c = '\n' then ['\\', 'n']
  else if c = '\x0c' then ['\\', 'f']
  else if c = '\r' then ['\\', 'r']
  else if c < ' ' then '\\' :: 'u' :: hexDigitsPadded c.toNat
  else [c]

def stringText (text : String) : String :=
  "\"" ++ String.ofList (text.toList.flatMap escapedChar) ++ "\""

def numberText (whole : Int) (places : Nat) : String :=
  let digits := Nat.toDigits 10 whole.natAbs
  let padded := List.replicate (places + 1 - digits.length) '0' ++ digits
  let point := padded.length - places
  (if whole < 0 then "-" else "") ++ String.ofList (padded.take point) ++
    if places = 0 then "" else "." ++ String.ofList (padded.drop point)

def newLine (level : Nat) : String := "\n" ++ String.ofList (List.replicate (2 * level) ' ')

mutual

def textAt (level : Nat) : Json → String
  | null => "null"
  | boolean value => if value then "true" else "false"
  | number whole places => numberText whole places
  | string value => stringText value
  | array [] => "[]"
  | array (item :: rest) =>
    "[" ++ newLine (level + 1) ++ textAt (level + 1) item ++ itemsAt (level + 1) rest ++
      newLine level ++ "]"
  | object [] => "\x7b\x7d"
  | object ((key, value) :: rest) =>
    "\x7b" ++ newLine (level + 1) ++ stringText key ++ ": " ++ textAt (level + 1) value ++
      fieldsAt (level + 1) rest ++ newLine level ++ "\x7d"

def itemsAt (level : Nat) : List Json → String
  | [] => ""
  | item :: rest => "," ++ newLine level ++ textAt level item ++ itemsAt level rest

def fieldsAt (level : Nat) : List (String × Json) → String
  | [] => ""
  | (key, value) :: rest =>
    "," ++ newLine level ++ stringText key ++ ": " ++ textAt level value ++ fieldsAt level rest

end

def text (value : Json) : String := textAt 0 value

end CodeInventory.Json
