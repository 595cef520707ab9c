import CodeInventory.Proofs.Source.Occurrences
import CodeInventory.Proofs.Source.Reading

namespace CodeInventory.Source

open CodeInventory.Text

theorem Run.unique {allowed : Char → Bool} {run other after rest : List Char}
    (one : Run allowed run after) (two : Run allowed other rest)
    (same : run ++ after = other ++ rest) : run = other ∧ after = rest := by
  constructor
  · rw [← takeWhile_append_stop one.inside one.ends, same,
      takeWhile_append_stop two.inside two.ends]
  · rw [← dropWhile_append_stop one.inside one.ends, same,
      dropWhile_append_stop two.inside two.ends]

theorem Run.drop {allowed : Char → Bool} {run after : List Char} (whole : Run allowed run after)
    {offset : Nat} (inside : offset < run.length) : Run allowed (run.drop offset) after := by
  refine ⟨?_, fun c member => whole.inside c (List.mem_of_mem_drop member), whole.ends⟩
  intro nothing
  have short := List.drop_eq_nil_iff.1 nothing
  omega

section Offsets

variable {word : String} {gap more : List Char} {offset : Nat}

theorem Run.keyword_at_end {run after : List Char} (whole : Run isWord run after)
    (keyword : IsKeyword word) (blanks : Gap gap) (inside : offset < run.length)
    (found : (run ++ after).drop offset = word.toList ++ (gap ++ more)) :
    run.drop offset = word.toList ∧ after = gap ++ more := by
  rw [List.drop_append_of_le_length (Nat.le_of_lt inside)] at found
  exact (whole.drop inside).unique (keyword.run blanks more) found

theorem IsKeyword.not_at_other (keyword : IsKeyword word) {piece rest : List Char}
    (others : ∀ c ∈ piece, isWord c = false) (inside : offset < piece.length) :
    (piece ++ rest).drop offset ≠ word.toList ++ more := by
  intro found
  rw [List.drop_append_of_le_length (Nat.le_of_lt inside),
    List.drop_eq_getElem_cons inside] at found
  obtain ⟨first, letters, split⟩ := List.exists_cons_of_ne_nil keyword.filled
  rw [split, List.cons_append, List.cons_append] at found
  obtain ⟨same, _⟩ := List.cons.inj found
  have letter := keyword.letters first (by rw [split]; exact .head _)
  rw [← same, others _ (List.getElem_mem inside)] at letter
  cases letter

end Offsets

/-- What comes before the name of a declaration: it starts with the keyword, which does not start
again before the name does. -/
structure HeadedBy (word : String) (Head : List Char → Prop) : Prop where
  keyword : IsKeyword word
  opens : ∀ piece, Head piece → ∃ gap more, Gap gap ∧ piece = word.toList ++ (gap ++ more)
  clear : ∀ piece rest gap more offset, Head piece → Gap gap → 0 < offset →
    offset < piece.length → (piece ++ rest).drop offset ≠ word.toList ++ (gap ++ more)

theorem headedBy_setApart {word : String} (keyword : IsKeyword word) :
    HeadedBy word (SetApart word) := by
  refine ⟨keyword, ?_, ?_⟩
  · rintro _ ⟨gap, blanks, rfl⟩
    exact ⟨gap, [], blanks, by rw [List.append_nil]⟩
  · rintro _ rest gap more offset ⟨space, blanks, rfl⟩ others positive inside found
    rw [List.append_assoc] at found
    rw [List.length_append] at inside
    by_cases early : offset < word.toList.length
    · obtain ⟨same, _⟩ := (keyword.run blanks rest).keyword_at_end keyword others early found
      have lengths := congrArg List.length same
      rw [List.length_drop] at lengths
      omega
    · obtain ⟨later, rfl⟩ := Nat.exists_eq_add_of_le (Nat.le_of_not_lt early)
      rw [← List.drop_drop, List.drop_left] at found
      refine keyword.not_at_other ?_ (by omega) found
      exact fun c member => not_word_of_blank (blanks.blank c member)

/-- A declaration that starts inside another starts with the last letters of the other's name. -/
theorem HeadedBy.overlap {word : String} {Head : List Char → Prop} (headed : HeadedBy word Head)
    {piece name after gap more : List Char} {offset : Nat} (head : Head piece)
    (whole : Run isWord name after) (blanks : Gap gap) (positive : 0 < offset)
    (inside : offset < piece.length + name.length)
    (found : (piece ++ (name ++ after)).drop offset = word.toList ++ (gap ++ more)) :
    offset + word.toList.length = piece.length + name.length ∧ word.toList <:+ name ∧
      after = gap ++ more := by
  have past : piece.length ≤ offset := by
    apply Nat.le_of_not_lt
    intro early
    exact headed.clear piece _ gap more offset head blanks positive early found
  obtain ⟨later, rfl⟩ := Nat.exists_eq_add_of_le past
  rw [← List.drop_drop, List.drop_left] at found
  obtain ⟨ending, rest⟩ := whole.keyword_at_end headed.keyword blanks (by omega) found
  refine ⟨?_, ending ▸ List.drop_suffix later name, rest⟩
  have lengths := congrArg List.length ending
  rw [List.length_drop] at lengths
  omega

end CodeInventory.Source
