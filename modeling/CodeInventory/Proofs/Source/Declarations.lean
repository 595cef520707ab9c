import CodeInventory.Proofs.Source.Overlaps
import CodeInventory.Proofs.Source.Prefixes

namespace CodeInventory.Source

open CodeInventory.Text Skip

def Marked (marks : List Char) (closing : List Char) : Prop :=
  ∃ gap mark, (∀ c ∈ gap, isBlank c = true) ∧ mark ∈ marks ∧ closing = gap ++ [mark]

def MarkedAsFunction (closing : List Char) : Prop :=
  ∃ first second, Marked ['='] first ∧ Marked ['('] second ∧ closing = first ++ second

def Declares (word : String) (Closing : List Char → Prop) (text name : List Char) : Prop :=
  ∃ before gap closing after, text = before ++ word.toList ++ gap ++ name ++ closing ++ after ∧
    Gap gap ∧ (∀ c ∈ name, isWord c = true) ∧ Closing closing

/-- No word goes on here, and none starts without something else before it. -/
structure Barrier (closing : List Char) : Prop where
  apart : ∀ c ∈ closing, isWord c = false
  visible : ∃ c ∈ closing, isBlank c = false

structure Skip.Closes (tail : Skip) (Closing : List Char → Prop) : Prop where
  takes : ∀ after rest, tail.after? after = some rest ↔
    ∃ closing, Closing closing ∧ after = closing ++ rest
  bars : ∀ closing, Closing closing → Barrier closing

def isSign (c : Char) : Bool := !isWord c && !isBlank c

theorem closes_mark {marks : List Char} (signs : marks.all isSign = true) :
    (mark marks).Closes (Marked marks) := by
  have sign : ∀ c ∈ marks, isWord c = false ∧ isBlank c = false := by
    intro c member
    simpa [isSign] using List.all_eq_true.1 signs c member
  constructor
  · intro after rest
    rw [after?_mark_iff fun c member => (sign c member).2]
    constructor
    · rintro ⟨gap, c, blank, known, rfl⟩
      exact ⟨gap ++ [c], ⟨gap, c, blank, known, rfl⟩, by simp⟩
    · rintro ⟨_, ⟨gap, c, blank, known, rfl⟩, rfl⟩
      exact ⟨gap, c, blank, known, by simp⟩
  · rintro _ ⟨gap, c, blank, known, rfl⟩
    obtain ⟨noLetter, visible⟩ := sign c known
    refine ⟨fun b member => ?_, c, by simp, visible⟩
    rcases List.mem_append.1 member with inGap | last
    · exact not_word_of_blank (blank b inGap)
    · rw [List.mem_singleton.1 last]
      exact noLetter

theorem closes_functionMark : (mark ['='] ++ mark ['(']).Closes MarkedAsFunction := by
  have equals : (mark ['=']).Closes (Marked ['=']) := closes_mark (by decide +kernel)
  have parenthesis : (mark ['(']).Closes (Marked ['(']) := closes_mark (by decide +kernel)
  constructor
  · intro after rest
    rw [after?_append, Option.bind_eq_some_iff]
    constructor
    · rintro ⟨middle, passed, closed⟩
      obtain ⟨first, isFirst, rfl⟩ := (equals.takes _ _).1 passed
      obtain ⟨second, isSecond, rfl⟩ := (parenthesis.takes _ _).1 closed
      exact ⟨first ++ second, ⟨first, second, isFirst, isSecond, rfl⟩, by simp⟩
    · rintro ⟨_, ⟨first, second, isFirst, isSecond, rfl⟩, rfl⟩
      refine ⟨second ++ rest, (equals.takes _ _).2 ⟨first, isFirst, by simp⟩, ?_⟩
      exact (parenthesis.takes _ _).2 ⟨second, isSecond, rfl⟩
  · rintro _ ⟨first, second, isFirst, isSecond, rfl⟩
    have one := equals.bars first isFirst
    have two := parenthesis.bars second isSecond
    obtain ⟨c, member, visible⟩ := one.visible
    refine ⟨fun b inside => ?_, c, List.mem_append_left _ member, visible⟩
    rcases List.mem_append.1 inside with inFirst | inSecond
    · exact one.apart b inFirst
    · exact two.apart b inSecond

theorem Barrier.no_name {closing rest gap name after : List Char} (barrier : Barrier closing)
    (blanks : Gap gap) (whole : Run isWord name after) :
    closing ++ rest ≠ gap ++ (name ++ after) := by
  intro same
  obtain ⟨c, member, visible⟩ := barrier.visible
  obtain ⟨letter, more, split, isLetter⟩ := whole.head
  -- the first letter lies beyond the closing, so the sign in the closing is one of the blanks
  rw [split] at same
  have outside : letter ∉ closing := by
    intro inside
    rw [barrier.apart letter inside] at isLetter
    cases isLetter
  have within : closing <+: gap := front_of_stop (same ▸ List.prefix_append closing rest) outside
  rw [blanks.blank c (within.subset member)] at visible
  cases visible

section Keyword

variable {word : String} {tail : Skip} {Closing : List Char → Prop}

theorem read?_keyword_iff (closes : tail.Closes Closing) {text name rest : List Char} :
    (declaration (keyword word) tail).read? text = some (name, rest) ↔
      ∃ gap closing, Gap gap ∧ Run isWord name (closing ++ rest) ∧ Closing closing ∧
        text = word.toList ++ (gap ++ (name ++ (closing ++ rest))) := by
  rw [read?_declaration_iff (spells_keyword word)]
  constructor
  · rintro ⟨_, after, ⟨gap, blanks, rfl⟩, rfl, whole, closed⟩
    obtain ⟨closing, isClosing, rfl⟩ := (closes.takes _ _).1 closed
    exact ⟨gap, closing, blanks, whole, isClosing, by simp⟩
  · rintro ⟨gap, closing, blanks, whole, isClosing, rfl⟩
    refine ⟨word.toList ++ gap, closing ++ rest, ⟨gap, blanks, rfl⟩, by simp, whole, ?_⟩
    exact (closes.takes _ _).2 ⟨closing, isClosing, rfl⟩

/-- Where a declaration is closed by a barrier the next one starts after it. -/
theorem Barrier.next_apart {gap name closing rest other run after : List Char} {offset : Nat}
    (barrier : Barrier closing) (isKeyword : IsKeyword word) (blanks : Gap gap)
    (whole : Run isWord name (closing ++ rest)) (otherBlanks : Gap other)
    (otherWhole : Run isWord run after) (positive : 0 < offset)
    (found : (word.toList ++ gap ++ (name ++ (closing ++ rest))).drop offset =
      word.toList ++ (other ++ (run ++ after))) :
    (word.toList ++ gap).length + name.length + closing.length ≤ offset := by
  apply Nat.le_of_not_lt
  intro early
  by_cases inName : offset < (word.toList ++ gap).length + name.length
  · obtain ⟨_, _, ends⟩ := (headedBy_setApart isKeyword).overlap ⟨gap, blanks, rfl⟩ whole
      otherBlanks positive inName found
    exact barrier.no_name otherBlanks otherWhole ends
  · obtain ⟨beyond, rfl⟩ := Nat.exists_eq_add_of_le (Nat.le_of_not_lt inName)
    rw [← List.drop_drop, ← List.drop_drop, List.drop_left, List.drop_left] at found
    exact isKeyword.not_at_other barrier.apart (by omega) found

theorem occurrences_disjoint (isKeyword : IsKeyword word) (closes : tail.Closes Closing)
    (text : List Char) :
    ((declaration (keyword word) tail).occurrences text).Pairwise
      fun first second => first.stop ≤ second.start := by
  refine (Shape.occurrences_increasing _ text).imp_of_mem fun {first second} here there less => ?_
  obtain ⟨rest, read, _, stop⟩ := Shape.at?_eq_some_iff.1 (Shape.mem_occurrences.1 here)
  obtain ⟨after, readToo, _, _⟩ := Shape.at?_eq_some_iff.1 (Shape.mem_occurrences.1 there)
  obtain ⟨gap, closing, blanks, whole, isClosing, split⟩ := (read?_keyword_iff closes).1 read
  obtain ⟨other, _, otherBlanks, otherWhole, _, found⟩ := (read?_keyword_iff closes).1 readToo
  have inside := Shape.lt_length_of_at? (Shape.mem_occurrences.1 here)
  obtain ⟨offset, later⟩ := Nat.exists_eq_add_of_le (Nat.le_of_lt less)
  rw [← List.append_assoc] at split
  rw [later, ← List.drop_drop, split] at found
  have past := (closes.bars closing isClosing).next_apart isKeyword blanks whole otherBlanks
    otherWhole (by omega) found
  have lengths := congrArg List.length split
  simp only [List.length_drop, List.length_append] at lengths past
  omega

theorem mem_captures_keyword (isKeyword : IsKeyword word) (closes : tail.Closes Closing)
    {text name : List Char} :
    name ∈ (declaration (keyword word) tail).captures text ↔
      name ≠ [] ∧ Declares word Closing text name := by
  have all : Occurrence.reported ((declaration (keyword word) tail).occurrences text) =
      (declaration (keyword word) tail).occurrences text :=
    Occurrence.reportedFrom_of_disjoint (fun _ _ => Nat.zero_le _)
      (occurrences_disjoint isKeyword closes text)
  rw [Shape.captures_eq_reported, all, List.mem_map]
  constructor
  · rintro ⟨occurrence, member, rfl⟩
    obtain ⟨rest, read, _, _⟩ := Shape.at?_eq_some_iff.1 (Shape.mem_occurrences.1 member)
    obtain ⟨gap, closing, blanks, whole, isClosing, split⟩ := (read?_keyword_iff closes).1 read
    refine ⟨whole.filled, text.take occurrence.start, gap, closing, rest, ?_, blanks, whole.inside,
      isClosing⟩
    have halves := List.take_append_drop occurrence.start text
    rw [split] at halves
    simpa using halves.symm
  · rintro ⟨filled, before, gap, closing, after, rfl, blanks, letters, isClosing⟩
    have ends : Run isWord name (closing ++ after) := by
      refine ⟨filled, letters, fun c first => ?_⟩
      have barrier := closes.bars closing isClosing
      obtain ⟨sign, member, _⟩ := barrier.visible
      obtain ⟨head, more, rfl⟩ := List.exists_cons_of_ne_nil (List.ne_nil_of_mem member)
      have same : head = c := Option.some.inj first
      exact barrier.apart c (same ▸ .head _)
    have read : (declaration (keyword word) tail).read?
        (word.toList ++ (gap ++ (name ++ (closing ++ after)))) = some (name, after) :=
      (read?_keyword_iff closes).2 ⟨gap, closing, blanks, ends, isClosing, rfl⟩
    refine ⟨⟨before.length, _, name⟩, Shape.mem_occurrences.2 (Shape.at?_eq_some_iff.2
      ⟨after, ?_, rfl, rfl⟩), rfl⟩
    simpa using read

end Keyword

theorem mem_capturesIn {shape : Shape} {text name : String} :
    name ∈ shape.capturesIn text ↔ name.toList ∈ shape.captures text.toList := by
  rw [Shape.capturesIn, List.mem_map]
  constructor
  · rintro ⟨run, member, rfl⟩
    rwa [String.toList_ofList]
  · intro member
    exact ⟨_, member, String.ofList_toList⟩

theorem mem_reportable {names : List String} {name : String} :
    name ∈ reportable names ↔ (1 < name.length ∧ isReserved name = false) ∧ name ∈ names := by
  rw [reportable, NameSet.mem_ofList, List.mem_filter, isReportable, Bool.and_eq_true,
    decide_eq_true_eq, Bool.not_eq_true', and_comm]

theorem mem_capturesIn_keyword {word : String} {tail : Skip} {Closing : List Char → Prop}
    {shape : Shape} {text name : String} (isKeyword : IsKeyword word)
    (closes : tail.Closes Closing)
    (plain : shape.captures text.toList =
      (declaration (keyword word) tail).captures text.toList)
    (long : 1 < name.length) :
    name ∈ shape.capturesIn text ↔ Declares word Closing text.toList name.toList := by
  rw [mem_capturesIn, plain, mem_captures_keyword isKeyword closes]
  apply and_iff_right
  intro empty
  rw [← String.length_toList, empty] at long
  exact absurd long (by decide)

theorem marked_declarations_are_all_reported (text name : String) :
    (name ∈ (classify text).functions ↔ (1 < name.length ∧ isReserved name = false) ∧
      Declares "function" (Marked ['(']) text.toList name.toList) ∧
    (name ∈ (classify text).types ↔ (1 < name.length ∧ isReserved name = false) ∧
      Declares "type" (Marked ['=']) text.toList name.toList) ∧
    (name ∈ (classify text).constants ↔ (1 < name.length ∧ isReserved name = false) ∧
      Declares "const" (Marked [':', '=']) text.toList name.toList ∧
      ¬ Declares "const" MarkedAsFunction text.toList name.toList) := by
  have function : IsKeyword "function" := by decide +kernel
  have type : IsKeyword "type" := by decide +kernel
  have const : IsKeyword "const" := by decide +kernel
  refine ⟨?_, ?_, ?_⟩
  · rw [classify, mem_reportable]
    refine and_congr_right fun known => mem_capturesIn_keyword function
      (closes_mark (by decide +kernel)) (captures_functionShape _) known.1
  · rw [classify, mem_reportable]
    refine and_congr_right fun known => mem_capturesIn_keyword type
      (closes_mark (by decide +kernel)) ?_ known.1
    exact captures_exportedOr type (by decide +kernel) _ _
  · rw [classify, mem_reportable]
    refine and_congr_right fun known => ?_
    have declared : name ∈ constantShape.capturesIn text ↔
        Declares "const" (Marked [':', '=']) text.toList name.toList := by
      refine mem_capturesIn_keyword const (closes_mark (by decide +kernel)) ?_ known.1
      exact captures_exportedOr const (by decide +kernel) _ _
    have bound : name ∈ functionValueShape.capturesIn text ↔
        Declares "const" MarkedAsFunction text.toList name.toList :=
      mem_capturesIn_keyword const closes_functionMark rfl known.1
    rw [← declared, ← bound]
    simp

end CodeInventory.Source
