import CodeInventory.Proofs.Source.Exports
import CodeInventory.Proofs.Source.Separators

namespace CodeInventory.Source

open CodeInventory.Text Skip

/-- The second text has other blanks, at least one, in place of each longest run of blanks of the
first, and is the same otherwise. -/
inductive Respaced : List Char → List Char → Prop
  | nil : Respaced [] []
  | visible {c : Char} {text other : List Char} (seen : isBlank c = false)
    (rest : Respaced text other) : Respaced (c :: text) (c :: other)
  | gap {gap space text other : List Char} (blanks : Gap gap) (spaces : Gap space)
    (ends : ∀ c ∈ text.head?, isBlank c = false) (rest : Respaced text other) :
    Respaced (gap ++ text) (space ++ other)

section Related

variable {α β γ δ : Type} {R : α → β → Prop} {S : γ → δ → Prop} {a : Option α} {b : Option β}

theorem rel_bind {f : α → Option γ} {g : β → Option δ} (first : Option.Rel R a b)
    (next : ∀ x y, R x y → Option.Rel S (f x) (g y)) : Option.Rel S (a.bind f) (b.bind g) := by
  cases first with
  | none => exact .none
  | some related => exact next _ _ related

theorem rel_map {f : α → γ} {g : β → δ} (first : Option.Rel R a b)
    (next : ∀ x y, R x y → S (f x) (g y)) : Option.Rel S (a.map f) (b.map g) := by
  cases first with
  | none => exact .none
  | some related => exact .some (next _ _ related)

theorem rel_or {c : Option α} {d : Option β} (first : Option.Rel R a b)
    (second : Option.Rel R c d) : Option.Rel R (a.or c) (b.or d) := by
  cases first with
  | none => exact second
  | some related => exact .some related

theorem rel_getD {x : α} {y : β} (first : Option.Rel R a b) (otherwise : R x y) :
    R (a.getD x) (b.getD y) := by
  cases first with
  | none => exact otherwise
  | some related => exact related

end Related

namespace Respaced

variable {text other : List Char}

theorem head_visible (same : Respaced text other) (seen : ∀ c ∈ text.head?, isBlank c = false) :
    ∀ c ∈ other.head?, isBlank c = false := by
  cases same with
  | nil => exact seen
  | visible _ _ => exact seen
  | gap blanks _ _ _ =>
    rcases blanks.head _ with ⟨b, more, split, blank⟩
    rw [split] at seen
    rw [seen b rfl] at blank
    cases blank

theorem append {front : List Char} (seen : ∀ c ∈ front, isBlank c = false)
    (rest : Respaced text other) : Respaced (front ++ text) (front ++ other) := by
  induction front with
  | nil => exact rest
  | cons c front ih =>
    rcases List.forall_mem_cons.1 seen with ⟨first, others⟩
    exact .visible first (ih others)

theorem dropBlanks (same : Respaced text other) :
    Respaced (text.dropWhile isBlank) (other.dropWhile isBlank) := by
  cases same with
  | nil => exact .nil
  | visible seen rest =>
    rw [List.dropWhile_cons_of_neg (by simp [seen]), List.dropWhile_cons_of_neg (by simp [seen])]
    exact .visible seen rest
  | gap blanks spaces ends rest =>
    rw [dropWhile_append_stop blanks.blank ends,
      dropWhile_append_stop spaces.blank (rest.head_visible ends)]
    exact rest

theorem run_eq {p : Char → Bool} (avoids : ∀ c, isBlank c = true → p c = false)
    (same : Respaced text other) :
    text.takeWhile p = other.takeWhile p ∧
      Respaced (text.dropWhile p) (other.dropWhile p) := by
  induction same with
  | nil => exact ⟨rfl, .nil⟩
  | @visible c text other seen rest ih =>
    rw [List.takeWhile_cons, List.takeWhile_cons, List.dropWhile_cons, List.dropWhile_cons]
    split
    · exact ⟨congrArg _ ih.1, ih.2⟩
    · exact ⟨rfl, .visible seen rest⟩
  | @gap gap space text other blanks spaces ends rest _ =>
    have whole := Respaced.gap blanks spaces ends rest
    rcases blanks.head text with ⟨b, more, split, blank⟩
    rcases spaces.head other with ⟨d, others, splitToo, blankToo⟩
    rw [split, splitToo] at whole ⊢
    simp [avoids b blank, avoids d blankToo, whole]

theorem heads (same : Respaced text other) :
    (text = [] ∧ other = []) ∨
    (∃ c more others, isBlank c = false ∧ Respaced more others ∧ text = c :: more ∧
      other = c :: others) ∨
    ∃ b d more others, isBlank b = true ∧ isBlank d = true ∧ text = b :: more ∧
      other = d :: others := by
  cases same with
  | nil => exact .inl ⟨rfl, rfl⟩
  | visible seen rest => exact .inr (.inl ⟨_, _, _, seen, rest, rfl, rfl⟩)
  | gap blanks spaces _ _ =>
    rcases blanks.head _ with ⟨b, more, split, blank⟩
    rcases spaces.head _ with ⟨d, others, splitToo, blankToo⟩
    exact .inr (.inr ⟨b, d, more, others, blank, blankToo, split, splitToo⟩)

theorem afterOne {allowed : Char → Bool} (avoids : ∀ c, isBlank c = true → allowed c = false)
    (same : Respaced text other) :
    Option.Rel Respaced ((one allowed).after? text) ((one allowed).after? other) := by
  rcases same.heads with ⟨rfl, rfl⟩ | ⟨c, more, others, _, rest, rfl, rfl⟩ |
    ⟨b, d, more, others, blank, blankToo, rfl, rfl⟩
  · exact .none
  · rw [after?, after?]
    split
    · exact .some rest
    · exact .none
  · rw [after?, after?, if_neg (by simp [avoids b blank]), if_neg (by simp [avoids d blankToo])]
    exact .none

theorem afterWord {letters : List Char} (seen : ∀ c ∈ letters, isBlank c = false)
    (same : Respaced text other) :
    Option.Rel Respaced (afterWord letters text) (afterWord letters other) := by
  induction letters generalizing text other with
  | nil => exact .some same
  | cons letter letters ih =>
    rcases List.forall_mem_cons.1 seen with ⟨first, others⟩
    have apart : ∀ c, isBlank c = true → letter ≠ c := by
      intro c blank equal
      rw [← equal, first] at blank
      cases blank
    rcases same.heads with ⟨rfl, rfl⟩ | ⟨c, more, moreToo, _, rest, rfl, rfl⟩ |
      ⟨b, d, more, moreToo, blank, blankToo, rfl, rfl⟩
    · exact .none
    · rw [Skip.afterWord, Skip.afterWord]
      split
      · exact ih others rest
      · exact .none
    · rw [Skip.afterWord, Skip.afterWord, if_neg (apart b blank), if_neg (apart d blankToo)]
      exact .none

theorem afterBlanks (same : Respaced text other) :
    Option.Rel Respaced (someBlanks.after? text) (someBlanks.after? other) := by
  cases same with
  | nil => exact .none
  | visible seen _ =>
    simp only [someBlanks, after?_append, after?, seen, Bool.false_eq_true, if_false,
      Option.bind_none]
    exact .none
  | gap blanks spaces ends rest =>
    rw [after?_someBlanks_iff.2 ⟨_, blanks, rfl, ends⟩,
      after?_someBlanks_iff.2 ⟨_, spaces, rfl, rest.head_visible ends⟩]
    exact .some rest

end Respaced

/-- The pattern takes blanks only as whole runs, and any run will do. -/
inductive Skip.IgnoresSpacing : Skip → Prop
  | word {letters : List Char} (seen : ∀ c ∈ letters, isBlank c = false) :
    IgnoresSpacing (word letters)
  | one {allowed : Char → Bool} (avoids : ∀ c, isBlank c = true → allowed c = false) :
    IgnoresSpacing (one allowed)
  | blanks : IgnoresSpacing blanks
  | someBlanks : IgnoresSpacing someBlanks
  | optional {inner : Skip} (inside : IgnoresSpacing inner) : IgnoresSpacing (optional inner)
  | either {first second : Skip} (one : IgnoresSpacing first) (two : IgnoresSpacing second) :
    IgnoresSpacing (either first second)
  | andThen {first second : Skip} (one : IgnoresSpacing first) (two : IgnoresSpacing second) :
    IgnoresSpacing (first ++ second)

namespace Skip.IgnoresSpacing

theorem after?_respaced {skip : Skip} {text other : List Char} (ignores : skip.IgnoresSpacing)
    (same : Respaced text other) :
    Option.Rel Respaced (skip.after? text) (skip.after? other) := by
  induction ignores generalizing text other with
  | word seen => exact same.afterWord seen
  | one avoids => exact same.afterOne avoids
  | blanks => exact .some same.dropBlanks
  | someBlanks => exact same.afterBlanks
  | optional _ ih => exact .some (rel_getD (ih same) same)
  | either _ _ ihFirst ihSecond => exact rel_or (ihFirst same) (ihSecond same)
  | andThen _ _ ihFirst ihSecond => exact rel_bind (ihFirst same) fun _ _ => ihSecond

theorem keyword {letters : String} (isKeyword : IsKeyword letters) :
    (keyword letters).IgnoresSpacing :=
  .andThen (.word isKeyword.visible) .someBlanks

theorem mark {chars : List Char} (signs : chars.all isSign = true) :
    (mark chars).IgnoresSpacing := by
  apply andThen blanks
  apply one
  intro c blank
  have outside : c ∉ chars := by
    intro member
    have sign := List.all_eq_true.1 signs c member
    simp [isSign, blank] at sign
  simpa using outside

theorem oneOf {first : String} {others : List String}
    (keywords : ∀ word ∈ first :: others, IsKeyword word) :
    (oneOf first others).IgnoresSpacing := by
  induction others generalizing first with
  | nil => exact keyword (keywords first (.head _))
  | cons second others ih =>
    rcases List.forall_mem_cons.1 keywords with ⟨known, more⟩
    exact either (keyword known) (ih more)

end Skip.IgnoresSpacing

structure Shape.IgnoresSpacing (shape : Shape) : Prop where
  lead : shape.lead.IgnoresSpacing
  captured : ∀ c, isBlank c = true → shape.captured c = false
  tail : shape.tail.IgnoresSpacing
  starts : ∀ c text, isBlank c = true → shape.read? (c :: text) = none

namespace Shape.IgnoresSpacing

variable {shape : Shape} {text other : List Char}

theorem read?_respaced (ignores : shape.IgnoresSpacing) (same : Respaced text other) :
    Option.Rel (fun found foundToo => found.1 = foundToo.1 ∧ Respaced found.2 foundToo.2)
      (shape.read? text) (shape.read? other) := by
  apply rel_bind (ignores.lead.after?_respaced same)
  intro body bodyToo rest
  rcases rest.run_eq ignores.captured with ⟨run, after⟩
  simp only [run]
  split
  · exact .none
  · apply rel_map (ignores.tail.after?_respaced after)
    intro left leftToo respaced
    exact ⟨rfl, respaced⟩

theorem captures_gap (ignores : shape.IgnoresSpacing) {gap : List Char} (blanks : Gap gap)
    (text : List Char) : shape.captures (gap ++ text) = shape.captures text := by
  apply captures_append_of_missing
  intro c more ending
  exact ignores.starts c (more ++ text) (blanks.blank c (ending.subset (.head _)))

/-- Two scans of texts that differ in their blanks go side by side. -/
theorem captures_respaced (ignores : shape.IgnoresSpacing) (same : Respaced text other) :
    shape.captures text = shape.captures other := by
  induction size : text.length using Nat.strongRecOn generalizing text other with
  | ind size ih =>
    have related := ignores.read?_respaced same
    generalize found : shape.read? text = reading, foundToo : shape.read? other = readingToo
      at related
    cases related with
    | @some pair pairToo related =>
      rcases related with ⟨run, rest⟩
      have shorter := length_lt_of_read? found
      rw [captures_of_read? found, captures_of_read? foundToo, run,
        ih pair.2.length (by omega) rest rfl]
    | none =>
      cases same with
      | nil => rfl
      | visible seen rest =>
        rw [captures_of_missing found, captures_of_missing foundToo]
        rw [List.length_cons] at size
        exact ih _ (by omega) rest rfl
      | @gap gap space text other blanks spaces ends rest =>
        rw [ignores.captures_gap blanks, ignores.captures_gap spaces]
        have filled := List.length_pos_iff.2 blanks.filled
        rw [List.length_append] at size
        exact ih text.length (by omega) rest rfl

end Shape.IgnoresSpacing

theorem Skip.after?_keyword_at_blank {word : String} (isKeyword : IsKeyword word) {c : Char}
    (blank : isBlank c = true) (text : List Char) : (keyword word).after? (c :: text) = none := by
  cases passed : (keyword word).after? (c :: text) with
  | none => rfl
  | some rest =>
    rcases after?_keyword_iff.1 passed with ⟨gap, _, split, _⟩
    rcases List.exists_cons_of_ne_nil isKeyword.filled with ⟨letter, letters, spelled⟩
    rw [spelled, List.cons_append] at split
    have same : c = letter := (List.cons.inj split).1
    have visible := isKeyword.visible letter (by rw [spelled]; exact .head _)
    rw [← same, blank] at visible
    cases visible

theorem ignoresSpacing_declaration {lead tail : Skip} (ignores : lead.IgnoresSpacing)
    (ignoresToo : tail.IgnoresSpacing)
    (starts : ∀ c text, isBlank c = true → lead.after? (c :: text) = none) :
    (declaration lead tail).IgnoresSpacing where
  lead := ignores
  captured _ blank := not_word_of_blank blank
  tail := ignoresToo
  starts c text blank := by simp [declaration, Shape.read?, starts c text blank]

theorem ignoresSpacing_keyword {word : String} (isKeyword : IsKeyword word) {tail : Skip}
    (ignores : tail.IgnoresSpacing) : (declaration (keyword word) tail).IgnoresSpacing := by
  apply ignoresSpacing_declaration (.keyword isKeyword) ignores
  intro c text blank
  exact after?_keyword_at_blank isKeyword blank text

theorem ignoresSpacing_export : exportShape.IgnoresSpacing := by
  have exported : IsKeyword "export" := by decide +kernel
  apply ignoresSpacing_declaration (.andThen (.keyword exported) (.oneOf isKeyword_exportedKinds))
    (.word (by simp))
  intro c text blank
  rw [after?_append, after?_keyword_at_blank exported blank, Option.bind_none]

theorem Shape.IgnoresSpacing.perhapsAfter {shape : Shape} (ignores : shape.IgnoresSpacing)
    {word : String} (isKeyword : IsKeyword word) : (shape.perhapsAfter word).IgnoresSpacing where
  lead := .andThen (.optional (.keyword isKeyword)) ignores.lead
  captured := ignores.captured
  tail := ignores.tail
  starts c text blank := by
    rw [read?_perhapsAfter, after?_keyword_at_blank isKeyword blank, Option.getD_none]
    exact ignores.starts c text blank

theorem declarationShapes_ignoreSpacing :
    ∀ shape ∈ declarationShapes, shape.IgnoresSpacing := by
  have exported : IsKeyword "export" := by decide +kernel
  have await : IsKeyword "async" := by decide +kernel
  have function : IsKeyword "function" := by decide +kernel
  have const : IsKeyword "const" := by decide +kernel
  have nothing : nothing.IgnoresSpacing := .word (by simp)
  have equals : (mark ['=']).IgnoresSpacing := .mark (by decide +kernel)
  have opening : (mark ['(']).IgnoresSpacing := .mark (by decide +kernel)
  have binding : (mark [':', '=']).IgnoresSpacing := .mark (by decide +kernel)
  simp only [declarationShapes, List.forall_mem_cons, List.not_mem_nil, false_implies,
    implies_true, and_true]
  refine ⟨?_, ?_, ?_, ?_, ?_, ?_, ignoresSpacing_export⟩
  · exact ((ignoresSpacing_keyword function opening).perhapsAfter await).perhapsAfter exported
  · exact (ignoresSpacing_keyword (by decide +kernel) nothing).perhapsAfter exported
  · exact (ignoresSpacing_keyword (by decide +kernel) nothing).perhapsAfter exported
  · exact (ignoresSpacing_keyword (by decide +kernel) equals).perhapsAfter exported
  · exact (ignoresSpacing_keyword const binding).perhapsAfter exported
  · exact ignoresSpacing_keyword const (.andThen equals opening)

theorem Gap.of_all {gap : List Char} (filled : gap ≠ []) (blanks : gap.all isBlank = true) :
    Gap gap :=
  ⟨filled, List.all_eq_true.1 blanks⟩

theorem visible_head {text : List Char} (visible : text.head?.all (! isBlank ·) = true) :
    ∀ c ∈ text.head?, isBlank c = false := by
  intro c first
  simpa [Option.mem_def.1 first] using visible

theorem classify_ignores_spacing (text other : String)
    (same : Respaced text.toList other.toList) : classify text = classify other := by
  apply classify_congr
  intro shape known name
  have ignores := declarationShapes_ignoreSpacing shape known
  rw [mem_capturesIn, mem_capturesIn, ignores.captures_respaced same]

def narrowText : String := "class class Foo\nconst run = ("

/-- The same text with a wide space, a line end of two characters, tabs, and a line end before the
sign. -/
def wideText : String := "class\u3000class \t Foo\r\nconst\t\trun\n= ("

theorem wide_text_is_classified_alike :
    Respaced narrowText.toList wideText.toList ∧ classify narrowText = classify wideText := by
  have space : Gap [' '] := Gap.of_all (by decide) (by decide +kernel)
  have line : Gap ['\n'] := Gap.of_all (by decide) (by decide +kernel)
  have wide : Gap ['\u3000'] := Gap.of_all (by decide) (by decide +kernel)
  have padded : Gap [' ', '\t', ' '] := Gap.of_all (by decide) (by decide +kernel)
  have twofold : Gap ['\r', '\n'] := Gap.of_all (by decide) (by decide +kernel)
  have tabs : Gap ['\t', '\t'] := Gap.of_all (by decide) (by decide +kernel)
  have isClass : IsKeyword "class" := by decide +kernel
  have isFoo : IsKeyword "Foo" := by decide +kernel
  have isConst : IsKeyword "const" := by decide +kernel
  have isRun : IsKeyword "run" := by decide +kernel
  have opened : Respaced ['('] ['('] := .visible (by decide +kernel) .nil
  have valued : Respaced "= (".toList "= (".toList :=
    .visible (by decide +kernel) (.gap space space (visible_head (by decide +kernel)) opened)
  have bound : Respaced "run = (".toList "run\n= (".toList :=
    .append isRun.visible (.gap space line (visible_head (by decide +kernel)) valued)
  have constant : Respaced "const run = (".toList "const\t\trun\n= (".toList :=
    .append isConst.visible (.gap space tabs (visible_head (by decide +kernel)) bound)
  have named : Respaced "Foo\nconst run = (".toList "Foo\r\nconst\t\trun\n= (".toList :=
    .append isFoo.visible (.gap line twofold (visible_head (by decide +kernel)) constant)
  have declared : Respaced "class Foo\nconst run = (".toList
      "class \t Foo\r\nconst\t\trun\n= (".toList :=
    .append isClass.visible (.gap space padded (visible_head (by decide +kernel)) named)
  have same : Respaced narrowText.toList wideText.toList :=
    .append isClass.visible (.gap space wide (visible_head (by decide +kernel)) declared)
  exact ⟨same, classify_ignores_spacing narrowText wideText same⟩

end CodeInventory.Source
