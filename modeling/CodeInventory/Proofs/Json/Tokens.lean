import CodeInventory.Json.Printer
import CodeInventory.Proofs.Json.Reader

namespace CodeInventory.Json

theorem length_hexDigitsPadded {n : Nat} (small : n < 32) : (hexDigitsPadded n).length = 4 := by
  have all : ∀ n < 32, (hexDigitsPadded n).length = 4 := by decide
  exact all n small

theorem unit?_hexDigitsPadded {n : Nat} (small : n < 32) (rest : List Char) :
    unit? (hexDigitsPadded n ++ rest) = some (n, rest) := by
  have all : ∀ n < 32, ((hexDigitsPadded n).mapM Toml.hexDigit?).map
      (fun digits => digits.foldl (fun n d => n * 16 + d) 0) = some n := by decide
  obtain ⟨digits, read, value⟩ := Option.map_eq_some_iff.1 (all n small)
  have four := length_hexDigitsPadded small
  have long : ¬ (hexDigitsPadded n ++ rest).length < 4 := by
    rw [List.length_append]
    omega
  rw [unit?, if_neg long, ← four, List.take_left, List.drop_left, read, Option.map_some, value]

theorem toNat_lt_of_control {c : Char} (control : c < ' ') : c.toNat < 32 := control

theorem codePoint?_hexDigitsPadded {c : Char} (control : c < ' ') (rest : List Char) :
    codePoint? (hexDigitsPadded c.toNat ++ rest) = some (c, rest) := by
  have small := toNat_lt_of_control control
  have single : ¬ (0xd800 ≤ c.toNat ∧ c.toNat < 0xdc00) := by omega
  have valid : c.toNat.isValidChar := .inl (by omega)
  simp only [codePoint?, unit?_hexDigitsPadded small, Option.bind_eq_bind, Option.bind_some,
    if_neg single, if_pos valid, Char.ofNat_toNat]

theorem character?_escapedChar (c : Char) (rest : List Char) :
    character? (escapedChar c ++ rest) = some (c, rest) := by
  rw [escapedChar]
  repeat' split
  -- The first seven cases are about one character each.
  all_goals try (subst c; rfl)
  · rename_i control
    exact codePoint?_hexDigitsPadded control rest
  · simp_all [character?]

theorem head_escapedChar (c : Char) :
    ∃ first others, escapedChar c = first :: others ∧ first ≠ '"' := by
  rw [escapedChar]
  repeat' split
  all_goals exact ⟨_, _, rfl, by first | assumption | decide⟩

theorem characters?_escaped (characters rest : List Char) :
    characters? (characters.flatMap escapedChar ++ '"' :: rest) = some (characters, rest) := by
  induction characters with
  | nil => rw [characters?]; simp
  | cons c others ih =>
    obtain ⟨first, more, escaped, unclosed⟩ := head_escapedChar c
    have read := character?_escapedChar c (others.flatMap escapedChar ++ '"' :: rest)
    have shorter : (others.flatMap escapedChar ++ '"' :: rest).length <
        (escapedChar c ++ (others.flatMap escapedChar ++ '"' :: rest)).length := by
      simp only [escaped, List.cons_append, List.length_cons, List.length_append]
      omega
    have start : (escapedChar c ++ (others.flatMap escapedChar ++ '"' :: rest)).head? ≠ some '"' := by
      simp [escaped, unclosed]
    rw [List.flatMap_cons, List.append_assoc, characters?, if_neg start, read]
    simp only [if_pos shorter, ih, Option.map_some]

theorem head_stringText (text : String) :
    ∃ others, (stringText text).toList = '"' :: others := by
  simp [stringText]

theorem string?_stringText (text : String) (rest : List Char) :
    string? ((stringText text).toList ++ rest) = some (text, rest) := by
  have shape : (stringText text).toList ++ rest =
      '"' :: (text.toList.flatMap escapedChar ++ '"' :: rest) := by
    simp [stringText]
  rw [shape, string?, characters?_escaped, Option.map_some, String.ofList_toList]

/-- What may stand after a number without being taken for a part of it. -/
def Ends (rest : List Char) : Prop :=
  ∀ c ∈ rest.head?, c.isDigit = false ∧ c ≠ '.' ∧ c ≠ 'e' ∧ c ≠ 'E'

theorem digits?_append {digits rest : List Char} (nonempty : digits ≠ [])
    (all : ∀ c ∈ digits, c.isDigit = true) (stop : ∀ c ∈ rest.head?, c.isDigit = false) :
    digits? (digits ++ rest) = some (digits, rest) := by
  have tail : rest.takeWhile Char.isDigit = [] ∧ rest.dropWhile Char.isDigit = rest := by
    cases rest with
    | nil => exact ⟨rfl, rfl⟩
    | cons c others =>
      have noDigit := stop c rfl
      simp [noDigit]
  have taken : (digits ++ rest).takeWhile Char.isDigit = digits := by
    rw [List.takeWhile_append_of_pos all, tail.1, List.append_nil]
  have left : (digits ++ rest).dropWhile Char.isDigit = rest := by
    rw [List.dropWhile_append_of_pos all, tail.2]
  rw [digits?, taken, left, if_neg nonempty]

theorem head?_toDigits {n : Nat} (positive : n ≠ 0) : (Nat.toDigits 10 n).head? ≠ some '0' := by
  induction n using Nat.strongRecOn with
  | ind n ih =>
    by_cases small : n < 10
    · rw [Nat.toDigits_of_lt_base small]
      simpa using positive
    · have shorter : n / 10 < n := by omega
      have quotient : n / 10 ≠ 0 := by omega
      have smaller := ih (n / 10) shorter quotient
      rw [Nat.toDigits_of_base_le (by decide) (by omega)]
      obtain ⟨first, others, split⟩ := List.exists_cons_of_ne_nil
        (Nat.toDigits_ne_nil (n := n / 10) (b := 10))
      rw [split] at smaller ⊢
      exact smaller

def padded (n places : Nat) : List Char :=
  List.replicate (places + 1 - (Nat.toDigits 10 n).length) '0' ++ Nat.toDigits 10 n

theorem length_padded (n places : Nat) :
    (padded n places).length = max (places + 1) (Nat.toDigits 10 n).length := by
  rw [padded, List.length_append, List.length_replicate]
  omega

theorem isDigit_of_mem_padded {n places : Nat} {c : Char} (member : c ∈ padded n places) :
    c.isDigit = true := by
  rcases List.mem_append.1 member with zero | digit
  · rw [(List.mem_replicate.1 zero).2]
    rfl
  · exact Nat.isDigit_of_mem_toDigits (by decide) (by decide) digit

theorem ofDigitChars_padded (n places : Nat) : Nat.ofDigitChars 10 (padded n places) 0 = n := by
  rw [padded, Nat.ofDigitChars_append, Nat.ofDigitChars_replicate_zero, Nat.mul_zero,
    Nat.ofDigitChars_ten_toDigits]

def wholePart (n places : Nat) : List Char :=
  (padded n places).take ((padded n places).length - places)

def fractionPart (n places : Nat) : List Char :=
  (padded n places).drop ((padded n places).length - places)

theorem whole_append_fraction (n places : Nat) :
    wholePart n places ++ fractionPart n places = padded n places := List.take_append_drop ..

theorem length_fractionPart (n places : Nat) : (fractionPart n places).length = places := by
  have length := length_padded n places
  rw [fractionPart, List.length_drop]
  omega

theorem wholePart_ne_nil (n places : Nat) : wholePart n places ≠ [] := by
  have length := length_padded n places
  apply List.length_pos_iff.1
  rw [wholePart, List.length_take]
  omega

/-- A zero before the point stands there alone. -/
theorem wholePart_canonical (n places : Nat) :
    (wholePart n places).head? ≠ some '0' ∨ (wholePart n places).length = 1 := by
  by_cases long : places + 1 < (Nat.toDigits 10 n).length
  · have unpadded : padded n places = Nat.toDigits 10 n := by
      rw [padded, Nat.sub_eq_zero_of_le (by omega)]
      rfl
    have positive : n ≠ 0 := by
      rintro rfl
      rw [Nat.toDigits_zero, List.length_singleton] at long
      omega
    have lead := head?_toDigits positive
    left
    rw [wholePart, unpadded, List.head?_take, if_neg (by omega)]
    exact lead
  · have length := length_padded n places
    right
    rw [wholePart, List.length_take]
    omega

theorem toList_numberText (whole : Int) (places : Nat) :
    (numberText whole places).toList = (if whole < 0 then ['-'] else []) ++
      wholePart whole.natAbs places ++
      (if places = 0 then [] else '.' :: fractionPart whole.natAbs places) := by
  rw [numberText]
  by_cases negative : whole < 0 <;> by_cases zero : places = 0 <;>
    simp [negative, zero, wholePart, fractionPart, padded]

theorem whole?_wholePart (n places : Nat) {rest : List Char}
    (stop : ∀ c ∈ rest.head?, c.isDigit = false) :
    whole? (wholePart n places ++ rest) = some (wholePart n places, rest) := by
  have digits : ∀ c ∈ wholePart n places, c.isDigit = true :=
    fun c member => isDigit_of_mem_padded (List.mem_of_mem_take member)
  have canonical := wholePart_canonical n places
  rw [whole?, digits?_append (wholePart_ne_nil n places) digits stop, Option.filter_some,
    if_pos (by simpa using canonical)]

theorem fraction?_fractionPart (n places : Nat) {rest : List Char} (ends : Ends rest) :
    fraction? ((if places = 0 then [] else '.' :: fractionPart n places) ++ rest) =
      some (fractionPart n places, rest) := by
  by_cases zero : places = 0
  · have empty : fractionPart n places = [] := by
      apply List.eq_nil_of_length_eq_zero
      rw [length_fractionPart, zero]
    rw [if_pos zero, empty, List.nil_append, fraction?]
    intro point same
    exact (ends '.' (by rw [same]; rfl)).2.1 rfl
  · have digits : ∀ c ∈ fractionPart n places, c.isDigit = true :=
      fun c member => isDigit_of_mem_padded (List.mem_of_mem_drop member)
    have some_digit : fractionPart n places ≠ [] := by
      apply List.length_pos_iff.1
      rw [length_fractionPart]
      omega
    rw [if_neg zero, List.cons_append, fraction?]
    exact digits?_append some_digit digits fun c member => (ends c member).1

theorem exponent?_of_ends {rest : List Char} (ends : Ends rest) : exponent? rest = some (0, rest) := by
  have absent : ¬ (rest.head? = some 'e' ∨ rest.head? = some 'E') := by
    rintro (lower | upper)
    · exact (ends 'e' lower).2.2.1 rfl
    · exact (ends 'E' upper).2.2.2 rfl
  rw [exponent?, if_neg absent]

theorem head_wholePart (n places : Nat) :
    ∃ first others, wholePart n places = first :: others ∧ first.isDigit = true := by
  obtain ⟨first, others, split⟩ := List.exists_cons_of_ne_nil (wholePart_ne_nil n places)
  have member : first ∈ wholePart n places := split ▸ List.mem_cons_self ..
  exact ⟨first, others, split, isDigit_of_mem_padded (List.mem_of_mem_take member)⟩

theorem sign_of_digits (whole : Int) (places : Nat) (rest : List Char) :
    sign ((if whole < 0 then ['-'] else []) ++ (wholePart whole.natAbs places ++ rest)) =
      (decide (whole < 0), wholePart whole.natAbs places ++ rest) := by
  by_cases negative : whole < 0
  · simp [negative, sign]
  · obtain ⟨first, others, split, digit⟩ := head_wholePart whole.natAbs places
    rw [if_neg negative, List.nil_append, split, List.cons_append, sign]
    · simp [negative]
    · rintro minus same
      rw [(List.cons.inj same).1] at digit
      exact absurd digit (by decide)

theorem signed_natAbs (whole : Int) : signed (decide (whole < 0)) whole.natAbs = whole := by
  by_cases negative : whole < 0
  · simp only [signed, negative, decide_true, if_true]
    omega
  · simp only [signed, negative, decide_false, Bool.false_eq_true, if_false]
    omega

theorem number?_numberText (whole : Int) (places : Nat) {rest : List Char} (ends : Ends rest) :
    number? ((numberText whole places).toList ++ rest) = some (number whole places, rest) := by
  have stop : ∀ c ∈ ((if places = 0 then [] else '.' :: fractionPart whole.natAbs places) ++
      rest).head?, c.isDigit = false := by
    intro c member
    by_cases zero : places = 0
    · rw [if_pos zero, List.nil_append] at member
      exact (ends c member).1
    · rw [if_neg zero, List.cons_append, List.head?_cons, Option.mem_some_iff] at member
      rw [← member]
      rfl
  have units : Nat.ofDigitChars 10 (wholePart whole.natAbs places ++
      fractionPart whole.natAbs places) 0 = whole.natAbs := by
    rw [whole_append_fraction, ofDigitChars_padded]
  have unscaled : scaled whole places 0 = number whole places := by simp [scaled]
  simp only [number?, toList_numberText, List.append_assoc, sign_of_digits, whole?_wholePart _ _ stop,
    fraction?_fractionPart _ _ ends, exponent?_of_ends ends, Option.bind_eq_bind, Option.bind_some,
    units, signed_natAbs, length_fractionPart, unscaled]

end CodeInventory.Json
