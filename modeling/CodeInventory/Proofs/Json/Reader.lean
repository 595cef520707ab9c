import Mathlib
import CodeInventory.Json.Value
import CodeInventory.Toml.Quotation

namespace CodeInventory.Json

def isBlank (c : Char) : Bool := c == ' ' || c == '\t' || c == '\n' || c == '\r'

def skipBlanks (text : List Char) : List Char := text.dropWhile isBlank

theorem length_skipBlanks_le (text : List Char) : (skipBlanks text).length ≤ text.length :=
  List.Sublist.length_le (List.dropWhile_sublist _)

def unit? (text : List Char) : Option (Nat × List Char) :=
  if text.length < 4 then none
  else ((text.take 4).mapM Toml.hexDigit?).map fun digits =>
    (digits.foldl (fun n d => n * 16 + d) 0, text.drop 4)

def secondUnit? : List Char → Option (Nat × List Char)
  | '\\' :: 'u' :: rest =>
    (unit? rest).filter fun found => decide (0xdc00 ≤ found.1 ∧ found.1 < 0xe000)
  | _ => none

def codePoint? (text : List Char) : Option (Char × List Char) := do
  let (unit, rest) ← unit? text
  if 0xd800 ≤ unit ∧ unit < 0xdc00 then
    let (second, rest) ← secondUnit? rest
    some (Char.ofNat (0x10000 + (unit - 0xd800) * 0x400 + (second - 0xdc00)), rest)
  else if unit.isValidChar then some (Char.ofNat unit, rest)
  else none

def escape? : List Char → Option (Char × List Char)
  | '"' :: rest => some ('"', rest)
  | '\\' :: rest => some ('\\', rest)
  | '/' :: rest => some ('/', rest)
  | 'b' :: rest => some ('\x08', rest)
  | 'f' :: rest => some ('\x0c', rest)
  | 'n' :: rest => some ('\n', rest)
  | 'r' :: rest => some ('\r', rest)
  | 't' :: rest => some ('\t', rest)
  | 'u' :: rest => codePoint? rest
  | _ => none

def character? : List Char → Option (Char × List Char)
  | [] => none
  | c :: rest =>
    if c = '\\' then escape? rest
    else if c < ' ' then none
    else some (c, rest)

def characters? (text : List Char) : Option (List Char × List Char) :=
  if text.head? = some '"' then some ([], text.tail)
  else
    match character? text with
    | none => none
    | some (c, rest) =>
      if rest.length < text.length then
        (characters? rest).map fun found => (c :: found.1, found.2)
      else none
termination_by text.length

def digits? (text : List Char) : Option (List Char × List Char) :=
  if text.takeWhile Char.isDigit = [] then none
  else some (text.takeWhile Char.isDigit, text.dropWhile Char.isDigit)

/-- The digits before the point; a zero comes first only when it is the one digit. -/
def whole? (text : List Char) : Option (List Char × List Char) :=
  (digits? text).filter fun found => found.1.head? != some '0' || found.1.length == 1

def fraction? : List Char → Option (List Char × List Char)
  | '.' :: rest => digits? rest
  | text => some ([], text)

def sign : List Char → Bool × List Char
  | '-' :: rest => (true, rest)
  | text => (false, text)

def signOrPlus : List Char → Bool × List Char
  | '+' :: rest => (false, rest)
  | text => sign text

def signed (negative : Bool) (n : Nat) : Int := if negative then -n else n

def exponent? (text : List Char) : Option (Int × List Char) :=
  if text.head? = some 'e' ∨ text.head? = some 'E' then
    (digits? (signOrPlus text.tail).2).map fun found =>
      (signed (signOrPlus text.tail).1 (Nat.ofDigitChars 10 found.1 0), found.2)
  else some (0, text)

def scaled (whole : Int) (places : Nat) (exponent : Int) : Json :=
  if exponent ≤ places then number whole (places - exponent).toNat
  else number (whole * 10 ^ (exponent - places).toNat) 0

def number? (text : List Char) : Option (Json × List Char) := do
  let (whole, rest) ← whole? (sign text).2
  let (fraction, rest) ← fraction? rest
  let (exponent, rest) ← exponent? rest
  let units := signed (sign text).1 (Nat.ofDigitChars 10 (whole ++ fraction) 0)
  some (scaled units fraction.length exponent, rest)

def literals : List (String × Json) :=
  [("null", null), ("true", boolean true), ("false", boolean false)]

def literal? (text : List Char) : Option (Json × List Char) :=
  literals.findSome? fun literal => (literal.1.toList.isPrefixOf? text).map (literal.2, ·)

def string? : List Char → Option (String × List Char)
  | '"' :: rest => (characters? rest).map fun found => (String.ofList found.1, found.2)
  | _ => none

def key? (text : List Char) : Option (String × List Char) :=
  (string? text).bind fun found =>
    match skipBlanks found.2 with
    | ':' :: rest => some (found.1, skipBlanks rest)
    | _ => none

mutual

def value? (text : List Char) : Option (Json × List Char) :=
  match text with
  | '[' :: rest =>
    if (skipBlanks rest).head? = some ']' then some (array [], (skipBlanks rest).tail)
    else (items? (skipBlanks rest)).map fun found => (array found.1, found.2)
  | '\x7b' :: rest =>
    if (skipBlanks rest).head? = some '\x7d' then some (object [], (skipBlanks rest).tail)
    else (fields? (skipBlanks rest)).map fun found => (object found.1, found.2)
  | text =>
    (((string? text).map fun found => (string found.1, found.2)).or (literal? text)).or (number? text)
termination_by (text.length, 0)
decreasing_by
  all_goals
    have shorter := length_skipBlanks_le rest
    simp only [Prod.lex_def, List.length_cons]
    omega

def items? (text : List Char) : Option (List Json × List Char) :=
  match value? text with
  | none => none
  | some (item, rest) =>
    match skipBlanks rest with
    | ']' :: last => some ([item], last)
    | ',' :: more =>
      if (skipBlanks more).length < text.length then
        (items? (skipBlanks more)).map fun found => (item :: found.1, found.2)
      else none
    | _ => none
termination_by (text.length, 1)

def fields? (text : List Char) : Option (List (String × Json) × List Char) :=
  match key? text with
  | none => none
  | some (key, start) =>
    if start.length < text.length then
      match value? start with
      | none => none
      | some (value, rest) =>
        match skipBlanks rest with
        | '\x7d' :: last => some ([(key, value)], last)
        | ',' :: more =>
          if (skipBlanks more).length < text.length then
            (fields? (skipBlanks more)).map fun found => ((key, value) :: found.1, found.2)
          else none
        | _ => none
    else none
termination_by (text.length, 1)

end

/-- One value with blanks around it, as RFC 8259 has it. Half of a pair of units that stands alone
is refused, since it is no character. -/
def read? (text : String) : Option Json :=
  match value? (skipBlanks text.toList) with
  | some (value, rest) => if skipBlanks rest = [] then some value else none
  | none => none

end CodeInventory.Json
