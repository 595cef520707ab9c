import CodeInventory.Proofs.Source.Overlaps

namespace CodeInventory.Source

open CodeInventory.Text

def exportedKinds : List String := ["const", "function", "class", "interface", "type"]

def ExportHead (piece : List Char) : Prop :=
  ∃ kind ∈ exportedKinds, ∃ first second, SetApart "export" first ∧ SetApart kind second ∧
    piece = first ++ second

theorem isKeyword_exportedKinds : ∀ kind ∈ exportedKinds, IsKeyword kind := by decide +kernel

namespace Skip

def oneOf : String → List String → Skip
  | first, [] => keyword first
  | first, second :: others => either (keyword first) (oneOf second others)

theorem after?_keyword_unique {word other : String} {text rest left : List Char}
    (one : IsKeyword word) (two : IsKeyword other)
    (passed : (keyword word).after? text = some rest)
    (passedToo : (keyword other).after? text = some left) : rest = left := by
  obtain ⟨gap, blanks, rfl, ends⟩ := after?_keyword_iff.1 passed
  obtain ⟨gapToo, blanksToo, split, endsToo⟩ := after?_keyword_iff.1 passedToo
  obtain ⟨_, after⟩ := (one.run blanks rest).unique (two.run blanksToo left) split
  have space : Run isBlank gap rest := ⟨blanks.filled, blanks.blank, ends⟩
  have spaceToo : Run isBlank gapToo left := ⟨blanksToo.filled, blanksToo.blank, endsToo⟩
  exact (space.unique spaceToo after).2

theorem after?_oneOf_iff {first : String} {others : List String} {text rest : List Char}
    (keywords : ∀ word ∈ first :: others, IsKeyword word) :
    (oneOf first others).after? text = some rest ↔
      ∃ word ∈ first :: others, (keyword word).after? text = some rest := by
  induction others generalizing first with
  | nil => simp [oneOf]
  | cons second others ih =>
    obtain ⟨known, more⟩ := List.forall_mem_cons.1 keywords
    simp only [oneOf, after?]
    cases passed : (keyword first).after? text with
    | none =>
      rw [Option.none_or, ih more]
      constructor
      · rintro ⟨word, member, found⟩
        exact ⟨word, .tail _ member, found⟩
      · rintro ⟨word, member, found⟩
        rcases List.mem_cons.1 member with rfl | member
        · rw [passed] at found
          cases found
        · exact ⟨word, member, found⟩
    | some left =>
      rw [Option.some_or]
      constructor
      · intro same
        exact ⟨first, .head _, passed.trans same⟩
      · rintro ⟨word, member, found⟩
        exact congrArg some (after?_keyword_unique known (keywords word member) passed found)

theorem spells_export : exportShape.lead.Spells ExportHead := by
  intro text c body letter
  have lead : exportShape.lead =
    keyword "export" ++ oneOf "const" ["function", "class", "interface", "type"] := rfl
  rw [lead, after?_append, Option.bind_eq_some_iff]
  constructor
  · rintro ⟨middle, exported, kind⟩
    obtain ⟨word, member, passed⟩ := (after?_oneOf_iff isKeyword_exportedKinds).1 kind
    obtain ⟨gap, blanks, rfl, _⟩ := after?_keyword_iff.1 exported
    obtain ⟨space, blanksToo, rfl, _⟩ := after?_keyword_iff.1 passed
    refine ⟨_, ⟨word, member, _, _, ⟨gap, blanks, rfl⟩, ⟨space, blanksToo, rfl⟩, rfl⟩, ?_⟩
    simp only [List.append_assoc]
  · rintro ⟨_, ⟨word, member, _, _, ⟨gap, blanks, rfl⟩, ⟨space, blanksToo, rfl⟩, rfl⟩, rfl⟩
    have known := isKeyword_exportedKinds word member
    refine ⟨word.toList ++ (space ++ c :: body), ?_, ?_⟩
    · rw [after?_keyword_iff]
      refine ⟨gap, blanks, by simp only [List.append_assoc], fun b first => ?_⟩
      obtain ⟨initial, letters, split⟩ := List.exists_cons_of_ne_nil known.filled
      rw [split] at first
      cases first
      exact known.visible _ (by rw [split]; exact .head _)
    · rw [after?_oneOf_iff isKeyword_exportedKinds]
      refine ⟨word, member, after?_keyword_iff.2 ⟨space, blanksToo, rfl, ?_⟩⟩
      rintro b ⟨⟩
      exact not_blank_of_word letter

end Skip

/-- No kind ends in `export`, so the keyword does not come again before the name. -/
theorem headedBy_export : HeadedBy "export" ExportHead := by
  have apart : ∀ kind ∈ exportedKinds, ¬ "export".toList <:+ kind.toList := by decide +kernel
  have plain : HeadedBy "export" (SetApart "export") := headedBy_setApart (by decide +kernel)
  refine ⟨plain.keyword, ?_, ?_⟩
  · rintro _ ⟨kind, _, _, second, ⟨gap, blanks, rfl⟩, _, rfl⟩
    exact ⟨gap, second, blanks, by rw [List.append_assoc]⟩
  · rintro _ rest gap more offset ⟨kind, member, first, _, head, ⟨space, blanks, rfl⟩, rfl⟩
      others positive inside found
    have known := isKeyword_exportedKinds kind member
    simp only [List.length_append] at inside
    rw [List.append_assoc] at found
    have past : first.length ≤ offset := by
      apply Nat.le_of_not_lt
      intro early
      exact plain.clear first _ gap more offset head others positive early found
    obtain ⟨later, rfl⟩ := Nat.exists_eq_add_of_le past
    rw [← List.drop_drop, List.drop_left, List.append_assoc] at found
    by_cases early : later < kind.toList.length
    · obtain ⟨ending, _⟩ :=
        (known.run blanks rest).keyword_at_end plain.keyword others early found
      exact apart kind member (ending ▸ List.drop_suffix later kind.toList)
    · obtain ⟨latest, rfl⟩ := Nat.exists_eq_add_of_le (Nat.le_of_not_lt early)
      rw [← List.drop_drop, List.drop_left] at found
      refine plain.keyword.not_at_other ?_ (by omega) found
      exact fun c blank => not_word_of_blank (blanks.blank c blank)

end CodeInventory.Source
