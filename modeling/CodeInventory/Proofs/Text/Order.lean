import CodeInventory.Proofs.Text.Encoding
import Mathlib.Data.String.Basic
import Mathlib.Tactic.SplitIfs

namespace CodeInventory.Text

theorem encode_eq_flatMap (text : String) :
    encode text = text.toList.flatMap String.utf8EncodeChar := by
  have bytes : text.toByteArray = text.toList.utf8Encode := by
    rw [← String.toByteArray_ofList, String.ofList_toList]
  rw [encode, toList_eq_data, String.toUTF8_eq_toByteArray, bytes]
  simp [List.utf8Encode]

/-- The bytes of two different characters differ before either ends. -/
theorem utf8EncodeChar_lt {lower upper : Char} (less : lower < upper) (front back : Bytes) :
    String.utf8EncodeChar lower ++ front < String.utf8EncodeChar upper ++ back := by
  have values : lower.val.toNat < upper.val.toNat := UInt32.lt_iff_toNat_lt.1 (Char.lt_def.1 less)
  have bound : upper.val.toNat < 0x110000 := by
    have valid := upper.valid
    simp only [UInt32.isValidChar, Nat.isValidChar] at valid
    omega
  simp only [String.utf8EncodeChar]
  generalize lower.val.toNat = v at values
  generalize upper.val.toNat = w at values bound
  have upperDigits : ∀ n, n / 64 / 64 = n / 4096 ∧ n / 4096 / 64 = n / 262144 := by omega
  obtain ⟨middleOfV, topOfV⟩ := upperDigits v
  obtain ⟨middleOfW, topOfW⟩ := upperDigits w
  split_ifs <;>
    simp only [List.cons_append, List.nil_append, List.cons_lt_cons_iff, UInt8.lt_iff_toNat_lt,
      ← UInt8.toNat_inj, UInt8.toNat_ofNat'] <;>
    simp (disch := omega) only [Nat.mod_eq_of_lt] <;>
    omega

theorem flatMap_lt_flatMap {lower upper : List Char} (less : lower < upper) :
    lower.flatMap String.utf8EncodeChar < upper.flatMap String.utf8EncodeChar := by
  induction lower generalizing upper with
  | nil =>
    cases upper with
    | nil => exact absurd less (List.lt_irrefl _)
    | cons c rest =>
      obtain ⟨first, others, bytes⟩ :=
        List.exists_cons_of_ne_nil (String.utf8EncodeChar_ne_nil (c := c))
      rw [List.flatMap_cons, bytes]
      exact List.nil_lt_cons _ _
  | cons c rest ih =>
    cases upper with
    | nil => exact absurd less (List.not_lt_nil _)
    | cons d others =>
      rw [List.flatMap_cons, List.flatMap_cons]
      rcases List.cons_lt_cons_iff.1 less with first | ⟨rfl, later⟩
      · exact utf8EncodeChar_lt first _ _
      · exact List.append_left_lt (ih later)

theorem encode_lt_encode {lower upper : String} : encode lower < encode upper ↔ lower < upper := by
  have forward : ∀ {a b : String}, a < b → encode a < encode b := by
    intro a b less
    rw [encode_eq_flatMap, encode_eq_flatMap]
    exact flatMap_lt_flatMap (String.lt_iff_toList_lt.1 less)
  refine ⟨fun bytes => ?_, forward⟩
  apply Classical.byContradiction
  intro notLess
  rcases Std.le_iff_lt_or_eq.1 (String.not_lt.1 notLess) with greater | same
  · exact List.lt_asymm bytes (forward greater)
  · rw [same] at bytes
    exact List.lt_irrefl _ bytes

end CodeInventory.Text
