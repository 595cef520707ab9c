import CodeInventory.Text.Blank
import CodeInventory.Text.Word

namespace CodeInventory.Text

theorem blankRanges_increasing : blankRanges.Increasing := by decide

theorem not_word_of_blankRange :
    ∀ r ∈ blankRanges, ∀ offset ≤ r.2 - r.1, wordRanges.contains (r.1 + offset) = false := by
  decide +kernel

theorem not_word_of_blank {c : Char} (blank : isBlank c = true) : isWord c = false := by
  rw [isBlank, Ranges.contains_eq_any _ blankRanges_increasing, List.any_eq_true] at blank
  obtain ⟨r, member, bounds⟩ := blank
  simp only [Bool.and_eq_true, decide_eq_true_eq] at bounds
  have apart := not_word_of_blankRange r member (c.toNat - r.1) (by omega)
  rwa [Nat.add_sub_cancel' bounds.1] at apart

theorem not_blank_of_word {c : Char} (word : isWord c = true) : isBlank c = false := by
  rw [Bool.eq_false_iff]
  intro blank
  rw [not_word_of_blank blank] at word
  cases word

end CodeInventory.Text
