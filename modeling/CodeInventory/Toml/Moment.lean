import CodeInventory.Toml.Number

namespace CodeInventory.Toml

def fixed? (count low high : Nat) (text : List Char) : Option (Nat × List Char) :=
  if text.length < count then none
  else ((text.take count).mapM (digit? 10)).bind fun digits =>
    let n := ofDigits 10 digits
    if low ≤ n ∧ n ≤ high then some (n, text.drop count) else none

def char? (allowed : List Char) : Reader Unit
  | c :: rest => if allowed.contains c then some ((), rest) else none
  | [] => none

def daysInMonth (year month : Nat) : Nat :=
  if month = 2 then
    if year % 4 = 0 ∧ (year % 100 ≠ 0 ∨ year % 400 = 0) then 29 else 28
  else if month = 4 ∨ month = 6 ∨ month = 9 ∨ month = 11 then 30
  else 31

def afterDate? (text : List Char) : Option (List Char) := do
  let (year, text) ← fixed? 4 0 9999 text
  let (_, text) ← char? ['-'] text
  let (month, text) ← fixed? 2 1 12 text
  let (_, text) ← char? ['-'] text
  let (_, text) ← fixed? 2 1 (daysInMonth year month) text
  return text

/-- The text after a time of day; a minute may have a leap second. -/
def afterTime? (text : List Char) : Option (List Char) := do
  let (_, text) ← fixed? 2 0 23 text
  let (_, text) ← char? [':'] text
  let (_, text) ← fixed? 2 0 59 text
  let (_, text) ← char? [':'] text
  let (_, text) ← fixed? 2 0 60 text
  match text with
  | '.' :: places =>
    match places.takeWhile Char.isDigit with
    | [] => return text
    | _ => return places.dropWhile Char.isDigit
  | _ => return text

def afterOffset? (text : List Char) : Option (List Char) :=
  match char? ['Z', 'z'] text with
  | some (_, rest) => some rest
  | none => do
    let (_, text) ← char? ['+', '-'] text
    let (_, text) ← fixed? 2 0 23 text
    let (_, text) ← char? [':'] text
    let (_, text) ← fixed? 2 0 59 text
    return text

/-- The text after a date, a date with a time, or a time. Moments are checked and then forgotten:
no setting is one. -/
def afterMoment? (text : List Char) : Option (List Char) :=
  match afterDate? text with
  | none => afterTime? text
  | some day =>
    match (char? ['T', 't', ' '] day).bind fun found => afterTime? found.2 with
    | none => some day
    | some time => some ((afterOffset? time).getD time)

end CodeInventory.Toml
