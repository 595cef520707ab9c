namespace CodeInventory.Text

abbrev Bytes := List UInt8

def encode (text : String) : Bytes := text.toUTF8.toList

def decode? (bytes : Bytes) : Option String := String.fromUTF8? ⟨bytes.toArray⟩

def continuations (lead : UInt8) : Option (List (UInt8 × UInt8)) :=
  if lead < 0x80 then some []
  else if lead < 0xc2 then none
  else if lead < 0xe0 then some [(0x80, 0xbf)]
  else if lead = 0xe0 then some [(0xa0, 0xbf), (0x80, 0xbf)]
  else if lead = 0xed then some [(0x80, 0x9f), (0x80, 0xbf)]
  else if lead < 0xf0 then some [(0x80, 0xbf), (0x80, 0xbf)]
  else if lead = 0xf0 then some [(0x90, 0xbf), (0x80, 0xbf), (0x80, 0xbf)]
  else if lead < 0xf4 then some [(0x80, 0xbf), (0x80, 0xbf), (0x80, 0xbf)]
  else if lead = 0xf4 then some [(0x80, 0x8f), (0x80, 0xbf), (0x80, 0xbf)]
  else none

def agreeing : List (UInt8 × UInt8) → Bytes → Nat
  | (low, high) :: expected, b :: rest =>
    if low ≤ b ∧ b ≤ high then agreeing expected rest + 1 else 0
  | _, _ => 0

def replacement : Char := '\ufffd'

def leadBits (lead : UInt8) (count : Nat) : Nat :=
  if count = 0 then lead.toNat else lead.toNat % (64 >>> count)

def scalar (lead : UInt8) (follow : Bytes) : Char :=
  Char.ofNat (follow.foldl (fun n b => n * 64 + b.toNat % 64) (leadBits lead follow.length))

/-- The first character, and how many bytes after the lead byte it takes. An ill-formed sequence is
cut where it stops being the start of a well-formed one. -/
def firstChar (lead : UInt8) (rest : Bytes) : Char × Nat :=
  match continuations lead with
  | none => (replacement, 0)
  | some expected =>
    let count := agreeing expected rest
    if count = expected.length then (scalar lead (rest.take count), count) else (replacement, count)

def replaceIllFormed : Bytes → List Char
  | [] => []
  | lead :: rest =>
    let first := firstChar lead rest
    first.1 :: replaceIllFormed (rest.drop first.2)
termination_by bytes => bytes.length
decreasing_by simp only [List.length_drop, List.length_cons]; omega

/-- Gives one replacement character for each ill-formed piece. -/
def decodeLossy (bytes : Bytes) : String :=
  (decode? bytes).getD (String.ofList (replaceIllFormed bytes))

end CodeInventory.Text
