import CodeInventory.Toml.Reader

namespace CodeInventory.Toml

def hexDigit? (c : Char) : Option Nat :=
  if '0' ≤ c ∧ c ≤ '9' then some (c.toNat - '0'.toNat)
  else if 'a' ≤ c ∧ c ≤ 'f' then some (c.toNat - 'a'.toNat + 10)
  else if 'A' ≤ c ∧ c ≤ 'F' then some (c.toNat - 'A'.toNat + 10)
  else none

def codePoint? (count : Nat) (text : List Char) : Option (Char × List Char) :=
  if text.length < count then none
  else ((text.take count).mapM hexDigit?).bind fun digits =>
    let n := digits.foldl (fun n d => n * 16 + d) 0
    if n.isValidChar then some (Char.ofNat n, text.drop count) else none

def escape? : Reader Char
  | 'b' :: rest => some ('\x08', rest)
  | 't' :: rest => some ('\t', rest)
  | 'n' :: rest => some ('\n', rest)
  | 'f' :: rest => some ('\x0c', rest)
  | 'r' :: rest => some ('\r', rest)
  | '"' :: rest => some ('"', rest)
  | '\\' :: rest => some ('\\', rest)
  | 'u' :: rest => codePoint? 4 rest
  | 'U' :: rest => codePoint? 8 rest
  | _ => none

def plainRun? (stops : List Char) (text : List Char) : Option (List Char × List Char) :=
  let plain := fun c => isPlain c && !stops.contains c
  match text.takeWhile plain with
  | [] => none
  | run => some (run, text.dropWhile plain)

def basicPiece? (text : List Char) : Option (List Char × List Char) :=
  (plainRun? ['"', '\\'] text).or
    (match text with
     | '\\' :: rest => (escape? rest).map fun found => ([found.1], found.2)
     | _ => none)

def literalPiece? (text : List Char) : Option (List Char × List Char) := plainRun? ['\''] text

def onOneLine? (piece : Reader (List Char)) (quote : Char) (text : List Char) :
    Option (String × List Char) :=
  match collect piece text with
  | (pieces, c :: rest) => if c = quote then some (String.ofList pieces.flatten, rest) else none
  | (_, []) => none

/-- A backslash at the end of a line takes all blanks and line ends after it away. -/
def foldedLine? (text : List Char) : Option (List Char) :=
  (newline? (skipSpaces text)).map fun rest =>
    skipSpaces (collect (fun t => (newline? (skipSpaces t)).map ((), ·)) rest).2

def looseQuotes? (quote : Char) (text : List Char) : Option (List Char × List Char) :=
  match text.takeWhile (· = quote), text.dropWhile (· = quote) with
  | [], _ => none
  | _, [] => none
  | run, rest => if run.length ≤ 2 then some (run, rest) else none

def longPiece? (piece : Reader (List Char)) (quote : Char) (text : List Char) :
    Option (List Char × List Char) :=
  (piece text).or ((newline? text).map (['\n'], ·)) |>.or (looseQuotes? quote text)

def basicLongPiece? (text : List Char) : Option (List Char × List Char) :=
  match text with
  | '\\' :: rest => ((foldedLine? rest).map ([], ·)).or (basicPiece? text)
  | _ => longPiece? basicPiece? '"' text

def literalLongPiece? (text : List Char) : Option (List Char × List Char) :=
  longPiece? literalPiece? '\'' text

/-- Pieces up to three closing quotes; up to two more before them belong to the text. -/
def onSeveralLines? (piece : Reader (List Char)) (quote : Char) (text : List Char) :
    Option (String × List Char) :=
  let (pieces, rest) := collect piece ((newline? text).getD text)
  let quotes := rest.takeWhile (· = quote)
  if 3 ≤ quotes.length ∧ quotes.length ≤ 5 then
    some (String.ofList (pieces.flatten ++ quotes.drop 3), rest.dropWhile (· = quote))
  else none

def shortString? : Reader String
  | '"' :: rest => onOneLine? basicPiece? '"' rest
  | '\'' :: rest => onOneLine? literalPiece? '\'' rest
  | _ => none

def string? : Reader String
  | '"' :: '"' :: '"' :: rest => onSeveralLines? basicLongPiece? '"' rest
  | '\'' :: '\'' :: '\'' :: rest => onSeveralLines? literalLongPiece? '\'' rest
  | text => shortString? text

end CodeInventory.Toml
