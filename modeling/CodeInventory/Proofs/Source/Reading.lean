import CodeInventory.Proofs.Text.Characters
import CodeInventory.Source.Symbols

namespace CodeInventory.Source

open CodeInventory.Text

theorem takeWhile_append_stop {p : Char → Bool} {front after : List Char}
    (inside : ∀ c ∈ front, p c = true) (ends : ∀ c ∈ after.head?, p c = false) :
    (front ++ after).takeWhile p = front := by
  rw [List.takeWhile_append_of_pos inside]
  cases after with
  | nil => simp
  | cons c rest => simp [ends c rfl]

theorem dropWhile_append_stop {p : Char → Bool} {front after : List Char}
    (inside : ∀ c ∈ front, p c = true) (ends : ∀ c ∈ after.head?, p c = false) :
    (front ++ after).dropWhile p = after := by
  rw [List.dropWhile_append_of_pos inside]
  cases after with
  | nil => rfl
  | cons c rest => simp [ends c rfl]

theorem head?_dropWhile_stops (p : Char → Bool) (text : List Char) :
    ∀ c ∈ (text.dropWhile p).head?, p c = false := by
  intro c first
  have stops := List.head?_dropWhile_not p text
  rw [Option.mem_def.1 first] at stops
  exact stops

theorem front_of_stop {word front rest : List Char} {c : Char}
    (first : word <+: front ++ c :: rest) (outside : c ∉ word) : word <+: front := by
  by_cases short : word.length ≤ front.length
  · exact List.prefix_of_prefix_length_le first (List.prefix_append _ _) short
  · have reaches : front ++ [c] <+: word := by
      refine List.prefix_of_prefix_length_le ⟨rest, by simp⟩ first ?_
      rw [List.length_append, List.length_singleton]
      omega
    exact absurd (reaches.subset (by simp)) outside

structure Gap (gap : List Char) : Prop where
  filled : gap ≠ []
  blank : ∀ c ∈ gap, isBlank c = true

/-- A run of characters, at least one, that the text after it does not continue. -/
structure Run (allowed : Char → Bool) (run after : List Char) : Prop where
  filled : run ≠ []
  inside : ∀ c ∈ run, allowed c = true
  ends : ∀ c ∈ after.head?, allowed c = false

def SetApart (word : String) (piece : List Char) : Prop :=
  ∃ gap, Gap gap ∧ piece = word.toList ++ gap

theorem Gap.head {gap : List Char} (blanks : Gap gap) (rest : List Char) :
    ∃ c more, gap ++ rest = c :: more ∧ isBlank c = true := by
  obtain ⟨c, more, rfl⟩ := List.exists_cons_of_ne_nil blanks.filled
  exact ⟨c, more ++ rest, rfl, blanks.blank c (.head _)⟩

theorem Run.head {allowed : Char → Bool} {run after : List Char} (whole : Run allowed run after) :
    ∃ c more, run ++ after = c :: more ∧ allowed c = true := by
  obtain ⟨c, more, rfl⟩ := List.exists_cons_of_ne_nil whole.filled
  exact ⟨c, more ++ after, rfl, whole.inside c (.head _)⟩

structure IsKeyword (word : String) : Prop where
  filled : word.toList ≠ []
  letters : ∀ c ∈ word.toList, isWord c = true

instance (word : String) : Decidable (IsKeyword word) :=
  decidable_of_iff (word.toList ≠ [] ∧ word.toList.all isWord = true) <| by
    rw [List.all_eq_true]
    exact ⟨fun both => ⟨both.1, both.2⟩, fun keyword => ⟨keyword.filled, keyword.letters⟩⟩

theorem IsKeyword.visible {word : String} (keyword : IsKeyword word) :
    ∀ c ∈ word.toList, isBlank c = false :=
  fun c member => not_blank_of_word (keyword.letters c member)

theorem IsKeyword.run {word : String} (keyword : IsKeyword word) {gap : List Char}
    (blanks : Gap gap) (rest : List Char) : Run isWord word.toList (gap ++ rest) := by
  refine ⟨keyword.filled, keyword.letters, fun c first => ?_⟩
  obtain ⟨b, more, split, blank⟩ := blanks.head rest
  rw [split] at first
  cases first
  exact not_word_of_blank blank

namespace Skip

theorem after?_append (first second : Skip) (text : List Char) :
    (first ++ second).after? text = (first.after? text).bind second.after? := rfl

theorem afterWord_eq_some_iff {letters text rest : List Char} :
    afterWord letters text = some rest ↔ text = letters ++ rest := by
  induction letters generalizing text with
  | nil => simp [afterWord]
  | cons letter letters ih =>
    cases text with
    | nil => simp [afterWord]
    | cons c text =>
      simp only [afterWord]
      split
      · rename_i same
        simp [ih, same]
      · rename_i different
        simp [Ne.symm different]

theorem after?_someBlanks_iff {text rest : List Char} :
    someBlanks.after? text = some rest ↔
      ∃ gap, Gap gap ∧ text = gap ++ rest ∧ ∀ c ∈ rest.head?, isBlank c = false := by
  rw [someBlanks, after?_append]
  constructor
  · intro passed
    obtain ⟨middle, first, others⟩ := Option.bind_eq_some_iff.1 passed
    cases text with
    | nil => cases first
    | cons b text =>
      simp only [after?] at first others
      split at first
      · rename_i blank
        rw [← Option.some.inj first, Option.some.injEq] at others
        rw [← others]
        refine ⟨b :: text.takeWhile isBlank, ⟨by simp, ?_⟩, ?_, head?_dropWhile_stops isBlank text⟩
        · refine List.forall_mem_cons.2 ⟨blank, fun c member => ?_⟩
          exact List.all_eq_true.1 List.all_takeWhile c member
        · rw [List.cons_append, List.takeWhile_append_dropWhile]
      · cases first
  · rintro ⟨gap, blanks, rfl, ends⟩
    obtain ⟨b, more, rfl⟩ := List.exists_cons_of_ne_nil blanks.filled
    obtain ⟨blank, others⟩ := List.forall_mem_cons.1 blanks.blank
    simp only [List.cons_append, after?, blank, if_true, Option.bind_some]
    rw [dropWhile_append_stop others ends]

theorem after?_keyword_iff {word : String} {text rest : List Char} :
    (keyword word).after? text = some rest ↔
      ∃ gap, Gap gap ∧ text = word.toList ++ (gap ++ rest) ∧
        ∀ c ∈ rest.head?, isBlank c = false := by
  rw [keyword, after?_append]
  constructor
  · intro passed
    obtain ⟨middle, first, second⟩ := Option.bind_eq_some_iff.1 passed
    obtain ⟨gap, blanks, rfl, ends⟩ := after?_someBlanks_iff.1 second
    exact ⟨gap, blanks, afterWord_eq_some_iff.1 first, ends⟩
  · rintro ⟨gap, blanks, rfl, ends⟩
    have first : (Skip.word word.toList).after? (word.toList ++ (gap ++ rest)) =
        some (gap ++ rest) := afterWord_eq_some_iff.2 rfl
    rw [first, Option.bind_some]
    exact after?_someBlanks_iff.2 ⟨gap, blanks, rfl, ends⟩

theorem after?_mark_iff {chars text rest : List Char}
    (visible : ∀ c ∈ chars, isBlank c = false) :
    (mark chars).after? text = some rest ↔
      ∃ gap c, (∀ b ∈ gap, isBlank b = true) ∧ c ∈ chars ∧ text = gap ++ c :: rest := by
  rw [mark, after?_append]
  simp only [after?, Option.bind_some]
  constructor
  · intro passed
    have split := List.takeWhile_append_dropWhile (p := isBlank) (l := text)
    cases after : text.dropWhile isBlank with
    | nil =>
      rw [after] at passed
      cases passed
    | cons c more =>
      rw [after, after?] at passed
      split at passed
      · rename_i known
        cases passed
        refine ⟨text.takeWhile isBlank, c, List.all_eq_true.1 List.all_takeWhile, ?_, ?_⟩
        · simpa using known
        · rw [← after, split]
      · cases passed
  · rintro ⟨gap, c, blank, known, rfl⟩
    have stop : ∀ b ∈ (c :: rest).head?, isBlank b = false := by
      rintro b ⟨⟩
      exact visible c known
    rw [dropWhile_append_stop blank stop, after?]
    simp [known]

/-- The pattern passes over `Head` and nothing else, where a word character comes next. -/
def Spells (lead : Skip) (Head : List Char → Prop) : Prop :=
  ∀ text c body, isWord c = true →
    (lead.after? text = some (c :: body) ↔ ∃ piece, Head piece ∧ text = piece ++ c :: body)

theorem spells_keyword (word : String) : (keyword word).Spells (SetApart word) := by
  intro text c body letter
  rw [after?_keyword_iff]
  constructor
  · rintro ⟨gap, blanks, rfl, _⟩
    exact ⟨_, ⟨gap, blanks, rfl⟩, by rw [List.append_assoc]⟩
  · rintro ⟨_, ⟨gap, blanks, rfl⟩, rfl⟩
    refine ⟨gap, blanks, by rw [List.append_assoc], ?_⟩
    rintro b ⟨⟩
    exact not_blank_of_word letter

end Skip

theorem Shape.read?_eq_some_iff {shape : Shape} {text run rest : List Char} :
    shape.read? text = some (run, rest) ↔
      ∃ after, shape.lead.after? text = some (run ++ after) ∧ Run shape.captured run after ∧
        shape.tail.after? after = some rest := by
  unfold Shape.read?
  constructor
  · intro found
    obtain ⟨body, lead, found⟩ := Option.bind_eq_some_iff.1 found
    simp only at found
    split at found
    · cases found
    · rename_i filled
      obtain ⟨end_, tail, same⟩ := Option.map_eq_some_iff.1 found
      cases same
      refine ⟨body.dropWhile shape.captured, ?_, ⟨?_, ?_, head?_dropWhile_stops _ body⟩, tail⟩
      · rw [lead, List.takeWhile_append_dropWhile]
      · simpa [List.isEmpty_iff] using filled
      · exact List.all_eq_true.1 List.all_takeWhile
  · rintro ⟨after, lead, whole, tail⟩
    rw [lead, Option.bind_some]
    simp only [takeWhile_append_stop whole.inside whole.ends,
      dropWhile_append_stop whole.inside whole.ends, tail]
    simp [whole.filled]

theorem read?_declaration_iff {lead tail : Skip} {Head : List Char → Prop}
    (spells : lead.Spells Head) {text name rest : List Char} :
    (declaration lead tail).read? text = some (name, rest) ↔
      ∃ piece after, Head piece ∧ text = piece ++ (name ++ after) ∧ Run isWord name after ∧
        tail.after? after = some rest := by
  rw [Shape.read?_eq_some_iff]
  constructor
  · rintro ⟨after, passed, whole, closed⟩
    obtain ⟨c, more, split, letter⟩ := whole.head
    have passed : lead.after? text = some (name ++ after) := passed
    rw [split] at passed
    obtain ⟨piece, head, rfl⟩ := (spells text c more letter).1 passed
    exact ⟨piece, after, head, by rw [split], whole, closed⟩
  · rintro ⟨piece, after, head, rfl, whole, closed⟩
    obtain ⟨c, more, split, letter⟩ := whole.head
    refine ⟨after, ?_, whole, closed⟩
    rw [split]
    exact (spells _ c more letter).2 ⟨piece, head, rfl⟩

end CodeInventory.Source
