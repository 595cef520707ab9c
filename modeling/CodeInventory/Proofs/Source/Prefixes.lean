import CodeInventory.Proofs.Source.Occurrences
import CodeInventory.Proofs.Source.Reading

namespace CodeInventory.Source

open CodeInventory.Text Skip

structure Shape.StartsWith (shape : Shape) (words : List (List Char)) : Prop where
  starts : ∀ text found, shape.read? text = some found → ∃ word ∈ words, word <+: text
  filled : ∀ word ∈ words, word ≠ []
  visible : ∀ word ∈ words, ∀ c ∈ word, isBlank c = false

/-- The shape with a word in front of it that may be missing. -/
def Shape.perhapsAfter (word : String) (shape : Shape) : Shape :=
  { shape with lead := optional (keyword word) ++ shape.lead }

variable {shape : Shape} {words : List (List Char)}

theorem Shape.StartsWith.missing_at_blank (starts : shape.StartsWith words) {c : Char}
    (blank : isBlank c = true) (text : List Char) : shape.read? (c :: text) = none := by
  cases found : shape.read? (c :: text) with
  | none => rfl
  | some pair =>
    obtain ⟨word, member, front⟩ := starts.starts _ _ found
    obtain ⟨letter, more, rfl⟩ := List.exists_cons_of_ne_nil (starts.filled word member)
    obtain ⟨rfl, _⟩ := List.cons_prefix_cons.1 front
    rw [starts.visible _ member _ (.head _)] at blank
    cases blank

theorem Shape.StartsWith.missing_inside (starts : shape.StartsWith words) {front end_ : List Char}
    (apart : ∀ word ∈ words, ¬ word <:+: front) (ending : end_ <:+ front) {c : Char}
    (blank : isBlank c = true) (text : List Char) : shape.read? (end_ ++ c :: text) = none := by
  cases found : shape.read? (end_ ++ c :: text) with
  | none => rfl
  | some pair =>
    obtain ⟨word, member, first⟩ := starts.starts _ _ found
    have outside : c ∉ word := by
      intro inside
      rw [starts.visible word member c inside] at blank
      cases blank
    have inside := (front_of_stop first outside).isInfix
    exact absurd (inside.trans ending.isInfix) (apart word member)

theorem Shape.captures_append_of_missing {front rest : List Char}
    (missing : ∀ c more, c :: more <:+ front → shape.read? (c :: more ++ rest) = none) :
    shape.captures (front ++ rest) = shape.captures rest := by
  induction front with
  | nil => rfl
  | cons c more ih =>
    have here : shape.read? (c :: (more ++ rest)) = none := missing c more List.suffix_rfl
    rw [List.cons_append, captures_of_missing here]
    exact ih fun d others ending => missing d others (ending.trans (List.suffix_cons c more))

theorem Shape.StartsWith.captures_after (starts : shape.StartsWith words) {word gap : List Char}
    (apart : ∀ other ∈ words, ¬ other <:+: word) (blanks : Gap gap) (rest : List Char) :
    shape.captures (word ++ (gap ++ rest)) = shape.captures rest := by
  rw [captures_append_of_missing, captures_append_of_missing]
  · intro c more ending
    have blank := blanks.blank c (ending.subset (.head _))
    exact starts.missing_at_blank blank (more ++ rest)
  · intro c more ending
    obtain ⟨b, others, split, blank⟩ := blanks.head rest
    rw [split]
    exact starts.missing_inside apart ending blank others

theorem Shape.read?_perhapsAfter (shape : Shape) (word : String) (text : List Char) :
    (shape.perhapsAfter word).read? text =
      shape.read? (((keyword word).after? text).getD text) := rfl

theorem Shape.StartsWith.captures_perhapsAfter (starts : shape.StartsWith words) (word : String)
    (apart : ∀ other ∈ words, ¬ other <:+: word.toList) (text : List Char) :
    (shape.perhapsAfter word).captures text = shape.captures text := by
  induction size : text.length using Nat.strongRecOn generalizing text with
  | ind size ih =>
    have read := read?_perhapsAfter shape word text
    cases ahead : (keyword word).after? text with
    | none =>
      rw [ahead, Option.getD_none] at read
      cases found : shape.read? text with
      | some pair =>
        obtain ⟨run, rest⟩ := pair
        have shorter := length_lt_of_read? found
        rw [captures_of_read? found, captures_of_read? (read.trans found),
          ih _ (by omega) rest rfl]
      | none =>
        cases text with
        | nil => rw [captures, captures]
        | cons c more =>
          rw [captures_of_missing found, captures_of_missing (read.trans found)]
          exact ih _ (by rw [← size]; exact Nat.lt_succ_self _) more rfl
    | some body =>
      rw [ahead, Option.getD_some] at read
      obtain ⟨gap, blanks, split, _⟩ := after?_keyword_iff.1 ahead
      have past : shape.captures text = shape.captures body := by
        rw [split]
        exact starts.captures_after apart blanks body
      cases found : shape.read? body with
      | some pair =>
        obtain ⟨run, rest⟩ := pair
        have shorter := length_lt_of_read? (read.trans found)
        rw [past, captures_of_read? found, captures_of_read? (read.trans found),
          ih _ (by omega) rest rfl]
      | none =>
        have missing : shape.read? text = none := by
          obtain ⟨b, others, here, blank⟩ := blanks.head body
          rw [split, here]
          exact starts.missing_inside apart List.suffix_rfl blank others
        cases text with
        | nil => rw [captures, captures]
        | cons c more =>
          rw [captures_of_missing missing, captures_of_missing (read.trans found)]
          exact ih _ (by rw [← size]; exact Nat.lt_succ_self _) more rfl

theorem startsWith_keyword {word : String} (isKeyword : IsKeyword word) (tail : Skip) :
    (declaration (keyword word) tail).StartsWith [word.toList] := by
  refine ⟨fun text found read => ?_, by simpa using isKeyword.filled,
    by simpa using isKeyword.visible⟩
  obtain ⟨body, lead, _⟩ := Option.bind_eq_some_iff.1 read
  obtain ⟨gap, _, split, _⟩ := after?_keyword_iff.1 lead
  exact ⟨_, .head _, split ▸ List.prefix_append _ _⟩

theorem Shape.StartsWith.perhapsAfter {word : String} (starts : shape.StartsWith words)
    (isKeyword : IsKeyword word) :
    (shape.perhapsAfter word).StartsWith (word.toList :: words) := by
  refine ⟨fun text found read => ?_, List.forall_mem_cons.2 ⟨isKeyword.filled, starts.filled⟩,
    List.forall_mem_cons.2 ⟨isKeyword.visible, starts.visible⟩⟩
  rw [read?_perhapsAfter] at read
  cases ahead : (keyword word).after? text with
  | none =>
    rw [ahead, Option.getD_none] at read
    obtain ⟨other, member, first⟩ := starts.starts _ _ read
    exact ⟨other, .tail _ member, first⟩
  | some body =>
    obtain ⟨gap, _, split, _⟩ := after?_keyword_iff.1 ahead
    exact ⟨_, .head _, split ▸ List.prefix_append _ _⟩

/-- `export` makes no difference to the declarations of one keyword. -/
theorem captures_exportedOr {word : String} (isKeyword : IsKeyword word)
    (apart : ¬ word.toList <:+: "export".toList) (tail : Skip) (text : List Char) :
    (declaration (exportedOr (keyword word)) tail).captures text =
      (declaration (keyword word) tail).captures text :=
  (startsWith_keyword isKeyword tail).captures_perhapsAfter _ (by simpa using apart) text

theorem captures_functionShape (text : List Char) :
    functionShape.captures text =
      (declaration (keyword "function") (mark ['('])).captures text := by
  have plain : (declaration (keyword "function") (mark ['('])).StartsWith ["function".toList] :=
    startsWith_keyword (by decide +kernel) _
  have await : IsKeyword "async" := by decide +kernel
  have delayed := plain.perhapsAfter await
  have exported := delayed.captures_perhapsAfter "export" (by decide +kernel) text
  have awaited := plain.captures_perhapsAfter "async" (by decide +kernel) text
  exact exported.trans awaited

end CodeInventory.Source
