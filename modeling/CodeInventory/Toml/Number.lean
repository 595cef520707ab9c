import CodeInventory.Decimal.Binary64
import CodeInventory.Toml.Quotation

namespace CodeInventory.Toml

open CodeInventory.Decimal

def digit? (base : Nat) (c : Char) : Option Nat := (hexDigit? c).filter (· < base)

/-- Digits that follow a digit. An underscore may stand between two of them. -/
def moreDigits (base : Nat) : List Char → List Nat × List Char
  | [] => ([], [])
  | c :: text =>
    match digit? base c with
    | some d =>
      let (digits, rest) := moreDigits base text
      (d :: digits, rest)
    | none =>
      if c = '_' ∧ (text.head?.bind (digit? base)).isSome then moreDigits base text
      else ([], c :: text)

def digits? (base : Nat) : Reader (List Nat)
  | c :: text => (digit? base c).map fun d =>
    let (digits, rest) := moreDigits base text
    (d :: digits, rest)
  | [] => none

def ofDigits (base : Nat) (digits : List Nat) : Nat := digits.foldl (fun n d => n * base + d) 0

def sign : List Char → Bool × List Char
  | '+' :: rest => (false, rest)
  | '-' :: rest => (true, rest)
  | text => (false, text)

def wholePart? : Reader (List Nat)
  | '0' :: rest => some ([0], rest)
  | text => digits? 10 text

def fraction? : Reader (List Nat)
  | '.' :: rest => digits? 10 rest
  | _ => none

def exponent? : Reader Int
  | c :: rest =>
    if c = 'e' ∨ c = 'E' then
      let (negative, rest) := sign rest
      (digits? 10 rest).map fun (digits, rest) =>
        let n := ofDigits 10 digits
        (if negative then -(n : Int) else n, rest)
    else none
  | [] => none

/-- A number with a fraction, an exponent or both. One too great for the format is refused, one too
far below zero is not. -/
def float? (text : List Char) : Option (Binary64 × List Char) := do
  let (negative, text) := sign text
  let (whole, text) ← wholePart? text
  let (places, power, rest) ←
    match exponent? text with
    | some (power, rest) => some ([], power, rest)
    | none => (fraction? text).map fun (places, text) =>
      match exponent? text with
      | some (power, rest) => (places, power, rest)
      | none => (places, 0, text)
  let value := Binary64.ofDecimal negative (ofDigits 10 (whole ++ places)) (power - places.length)
  if value = .infinite false then none else some (value, rest)

def specialFloat? (text : List Char) : Option (Binary64 × List Char) :=
  let (negative, text) := sign text
  match text with
  | 'i' :: 'n' :: 'f' :: rest => some (.infinite negative, rest)
  | 'n' :: 'a' :: 'n' :: rest => some (.notANumber, rest)
  | _ => none

def integerMin : Int := -0x8000000000000000

def integerMax : Int := 0x7fffffffffffffff

def inRange? (n : Int) : Option Int := if integerMin ≤ n ∧ n ≤ integerMax then some n else none

def basedInteger? (base : Nat) (text : List Char) : Option (Int × List Char) := do
  let (digits, rest) ← digits? base text
  let n ← inRange? (ofDigits base digits)
  return (n, rest)

def decimalInteger? (text : List Char) : Option (Int × List Char) := do
  let (negative, text) := sign text
  let (digits, rest) ← wholePart? text
  let n : Int := ofDigits 10 digits
  let n ← inRange? (if negative then -n else n)
  return (n, rest)

def integer? : Reader Int
  | '0' :: 'x' :: text => basedInteger? 16 text
  | '0' :: 'o' :: text => basedInteger? 8 text
  | '0' :: 'b' :: text => basedInteger? 2 text
  | text => decimalInteger? text

end CodeInventory.Toml
