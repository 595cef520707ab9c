namespace CodeInventory.Toml

/-- Takes a part off the head of a text, or refuses it. A document that is refused is refused as a
whole, so no reader tells why. -/
abbrev Reader (α : Type) := List Char → Option (α × List Char)

/-- Reads as often as possible. A step that takes nothing off ends the run. -/
def collect {α : Type} (step : Reader α) (text : List Char) : List α × List Char :=
  match step text with
  | none => ([], text)
  | some (item, rest) =>
    if rest.length < text.length then
      let (items, last) := collect step rest
      (item :: items, last)
    else ([], text)
termination_by text.length

def isSpace (c : Char) : Bool := c == ' ' || c == '\t'

def skipSpaces (text : List Char) : List Char := text.dropWhile isSpace

def newline? : List Char → Option (List Char)
  | '\n' :: rest => some rest
  | '\r' :: '\n' :: rest => some rest
  | _ => none

def isPlain (c : Char) : Bool := c == '\t' || (decide (' ' ≤ c) && c != '\x7f')

def skipComment : List Char → List Char
  | '#' :: text => text.dropWhile isPlain
  | text => text

def lineEnd? : List Char → Option (List Char)
  | [] => some []
  | text => newline? text

def restOfLine? (text : List Char) : Option (List Char) := lineEnd? (skipComment (skipSpaces text))

def skipGap (text : List Char) : List Char :=
  skipSpaces (collect (fun t => (newline? (skipComment (skipSpaces t))).map ((), ·)) text).2

end CodeInventory.Toml
