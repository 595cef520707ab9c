import CodeInventory.Proofs.Text.Order
import CodeInventory.Text.Lines

namespace CodeInventory.Text

variable {c d : Char}

def asciiByte (c : Char) : UInt8 := UInt8.ofNat c.toNat

theorem utf8EncodeChar_small (small : c.toNat < 0x80) :
    String.utf8EncodeChar c = [asciiByte c] := by
  have bound : c.val.toNat ≤ 0x7f := Nat.le_of_lt_succ small
  simp only [String.utf8EncodeChar, bound, if_true]
  rfl

theorem utf8EncodeChar_large (large : ¬ c.toNat < 0x80) :
    ∀ b ∈ String.utf8EncodeChar c, 0x80 ≤ b.toNat := by
  have bound : ¬ c.val.toNat ≤ 0x7f := fun small => large (Nat.lt_succ_of_le small)
  intro b member
  simp only [String.utf8EncodeChar, bound, if_false] at member
  split_ifs at member <;>
    simp only [List.mem_cons, List.not_mem_nil, or_false] at member <;>
    rcases member with rfl | rfl | rfl | rfl <;>
    simp <;> omega

theorem toNat_asciiByte (small : c.toNat < 0x80) : (asciiByte c).toNat = c.toNat := by
  rw [asciiByte, UInt8.toNat_ofNat']
  omega

theorem asciiByte_inj (small : c.toNat < 0x80) (smallOther : d.toNat < 0x80)
    (same : asciiByte c = asciiByte d) : c = d := by
  have values := congrArg UInt8.toNat same
  rw [toNat_asciiByte small, toNat_asciiByte smallOther] at values
  exact Char.toNat_inj.1 values

theorem asciiByte_mem_utf8EncodeChar (small : c.toNat < 0x80) :
    asciiByte c ∈ String.utf8EncodeChar d ↔ d = c := by
  by_cases other : d.toNat < 0x80
  · rw [utf8EncodeChar_small other, List.mem_singleton]
    exact ⟨fun same => (asciiByte_inj small other same).symm, fun same => by rw [same]⟩
  · refine iff_of_false ?_ ?_
    · intro member
      have large := utf8EncodeChar_large other _ member
      rw [toNat_asciiByte small] at large
      omega
    · rintro rfl
      exact other small

theorem asciiByte_mem_encode (small : c.toNat < 0x80) {text : String} :
    asciiByte c ∈ encode text ↔ c ∈ text.toList := by
  rw [encode_eq_flatMap, List.mem_flatMap]
  simp only [asciiByte_mem_utf8EncodeChar small, exists_eq_right]

theorem count_encode (small : c.toNat < 0x80) (text : String) :
    (encode text).count (asciiByte c) = text.toList.count c := by
  rw [encode_eq_flatMap]
  induction text.toList with
  | nil => rfl
  | cons d rest ih =>
    rw [List.flatMap_cons, List.count_append, ih, List.count_cons]
    by_cases same : d = c
    · subst same
      rw [utf8EncodeChar_small small]
      simp [Nat.add_comm]
    · have missing : asciiByte c ∉ String.utf8EncodeChar d := fun member =>
        same ((asciiByte_mem_utf8EncodeChar small).1 member)
      simp [List.count_eq_zero_of_not_mem missing, same]

theorem getLast?_encode (small : c.toNat < 0x80) (text : String) :
    (encode text).getLast? = some (asciiByte c) ↔ text.toList.getLast? = some c := by
  rw [encode_eq_flatMap]
  rcases List.eq_nil_or_concat text.toList with empty | ⟨front, last, split⟩
  · simp [empty]
  · rw [split, List.concat_eq_append, List.flatMap_append, List.flatMap_singleton,
      List.getLast?_append_of_ne_nil _ String.utf8EncodeChar_ne_nil, List.getLast?_concat,
      Option.some.injEq]
    constructor
    · intro ends
      exact (asciiByte_mem_utf8EncodeChar small).1 (List.mem_of_getLast? ends)
    · rintro rfl
      rw [utf8EncodeChar_small small]
      rfl

theorem encode_eq_nil {text : String} : encode text = [] ↔ text.toList = [] := by
  rw [encode_eq_flatMap, List.flatMap_eq_nil_iff]
  constructor
  · intro none
    cases chars : text.toList with
    | nil => rfl
    | cons c rest =>
      exact absurd (none c (chars ▸ List.mem_cons_self ..)) String.utf8EncodeChar_ne_nil
  · intro empty
    simp [empty]

theorem lineCount_eq_count (text : String) :
    lineCount text = (encode text).count 0x0a +
      if encode text = [] ∨ (encode text).getLast? = some 0x0a then 0 else 1 := by
  have small : '\n'.toNat < 0x80 := by decide
  have feed : asciiByte '\n' = 0x0a := rfl
  have count := count_encode small text
  have last := getLast?_encode small text
  rw [feed] at count last
  simp only [count, last, encode_eq_nil, lineCount]
  cases ends : text.toList.getLast? with
  | none => simp [List.getLast?_eq_none_iff.1 ends]
  | some c =>
    have filled : text.toList ≠ [] := by
      intro empty
      simp [empty] at ends
    by_cases feeds : c = '\n' <;> simp [filled, feeds]

theorem length_encode (text : String) : (encode text).length = text.utf8ByteSize := by
  rw [encode, toList_eq_data, String.toUTF8_eq_toByteArray]
  rfl

theorem decodeLossy_encode (text : String) : decodeLossy (encode text) = text := by
  rw [decodeLossy, decode?_encode]
  rfl

end CodeInventory.Text
