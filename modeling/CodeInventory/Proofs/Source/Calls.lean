import CodeInventory.Proofs.Source.Overlaps
import CodeInventory.Source.Labels

namespace CodeInventory.Source

open CodeInventory.Text

structure AreCallees (words : List String) : Prop where
  keyword : ∀ word ∈ words, IsKeyword word
  apart : ∀ word ∈ words, ∀ other ∈ words, word.toList <:+: other.toList → word = other

def CallHead (words : List String) (piece : List Char) : Prop :=
  ∃ word ∈ words, ∃ gap, (∀ c ∈ gap, isBlank c = true) ∧ piece = word.toList ++ '(' :: gap

/-- What comes before the first quote of a labelled call, the quotes, and what they enclose. -/
structure Labelled (words : List String) (head : List Char) (opening : Char) (body : List Char)
    (closing : Char) : Prop where
  head : CallHead words head
  opening : isQuote opening = true
  filled : body ≠ []
  plain : ∀ c ∈ body, isQuote c = false
  closing : isQuote closing = true

theorem isQuote_eq_contains : isQuote = ['\'', '"'].contains := by
  funext c
  simp only [isQuote, List.contains_cons, List.contains_nil, Bool.or_false]

theorem plain_of_all {text : List Char} (all : text.all (!isQuote ·) = true) :
    ∀ c ∈ text, isQuote c = false := by
  simpa using all

theorem sign_of_quote {c : Char} (quote : isQuote c = true) :
    isWord c = false ∧ isBlank c = false ∧ c ≠ '(' := by
  have either : c = '\'' ∨ c = '"' := by simpa [isQuote] using quote
  rcases either with rfl | rfl <;> decide +kernel

theorem eq_of_first_quote {front other rest more : List Char} {quote mark : Char}
    (plain : ∀ c ∈ front, isQuote c = false) (isFirst : isQuote quote = true)
    (plainToo : ∀ c ∈ other, isQuote c = false) (isFirstToo : isQuote mark = true)
    (same : front ++ quote :: rest = other ++ mark :: more) :
    front = other ∧ quote = mark ∧ rest = more := by
  have one : (front ++ quote :: rest).takeWhile (!isQuote ·) = front :=
    takeWhile_append_stop (by simpa using plain) (by simpa using isFirst)
  have two : (other ++ mark :: more).takeWhile (!isQuote ·) = other :=
    takeWhile_append_stop (by simpa using plainToo) (by simpa using isFirstToo)
  obtain rfl : front = other := by rw [← one, same, two]
  exact ⟨rfl, List.cons.inj (List.append_cancel_left same)⟩

section Heads

variable {words : List String} {head : List Char}

theorem AreCallees.head_plain (callees : AreCallees words) (isHead : CallHead words head) :
    ∀ c ∈ head, isQuote c = false := by
  obtain ⟨word, known, gap, blank, rfl⟩ := isHead
  intro c member
  rw [Bool.eq_false_iff]
  intro quote
  obtain ⟨noLetter, visible, different⟩ := sign_of_quote quote
  rcases List.mem_append.1 member with inWord | inRest
  · rw [(callees.keyword word known).letters c inWord] at noLetter
    cases noLetter
  · rcases List.mem_cons.1 inRest with rfl | inGap
    · exact different rfl
    · rw [blank c inGap] at visible
      cases visible

theorem IsKeyword.run_before_parenthesis {word : String} (keyword : IsKeyword word)
    (rest : List Char) : Run isWord word.toList ('(' :: rest) := by
  refine ⟨keyword.filled, keyword.letters, ?_⟩
  rintro c ⟨⟩
  decide +kernel

theorem AreCallees.head_whole (callees : AreCallees words) {front : List Char}
    (whole : CallHead words (front ++ head)) (isHead : CallHead words head) : front = [] := by
  obtain ⟨word, known, gap, blank, split⟩ := whole
  obtain ⟨other, knownToo, space, _, rfl⟩ := isHead
  have keyword := callees.keyword word known
  have keywordToo := callees.keyword other knownToo
  have found : (word.toList ++ '(' :: gap).drop front.length = other.toList ++ '(' :: space := by
    rw [← split, List.drop_left]
  have lengths := congrArg List.length split
  simp only [List.length_append, List.length_cons] at lengths
  by_cases inside : front.length < word.toList.length
  · rw [List.drop_append_of_le_length (Nat.le_of_lt inside)] at found
    obtain ⟨ending, _⟩ := ((keyword.run_before_parenthesis gap).drop inside).unique
      (keywordToo.run_before_parenthesis space) found
    have part : other.toList <:+: word.toList := (ending ▸ List.drop_suffix _ _).isInfix
    obtain rfl := callees.apart other knownToo word known part
    have short := congrArg List.length ending
    rw [List.length_drop] at short
    exact List.length_eq_zero_iff.1 (by omega)
  · obtain ⟨later, past⟩ := Nat.exists_eq_add_of_le (Nat.le_of_not_lt inside)
    rw [past, ← List.drop_drop, List.drop_left, ← List.append_nil ('(' :: gap)] at found
    refine absurd found (keywordToo.not_at_other ?_ ?_)
    · refine List.forall_mem_cons.2 ⟨by decide +kernel, fun c member => ?_⟩
      exact not_word_of_blank (blank c member)
    · rw [List.length_cons]
      omega

/-- What starts inside a labelled call starts in its body and takes its last quote for the first
of its own. -/
theorem Labelled.overlap (callees : AreCallees words) {opening closing quote : Char}
    {body after other more : List Char} {offset : Nat}
    (labelled : Labelled words head opening body closing) (isHead : CallHead words other)
    (isFirst : isQuote quote = true) (positive : 0 < offset)
    (inside : offset < head.length + body.length + 2)
    (found : (head ++ opening :: (body ++ closing :: after)).drop offset = other ++ quote :: more) :
    other <:+ body ∧ offset + other.length = head.length + 1 + body.length := by
  have plain := callees.head_plain labelled.head
  have plainToo := callees.head_plain isHead
  by_cases early : offset ≤ head.length
  · -- a head that ended at the opening quote would be the end of this one
    rw [List.drop_append_of_le_length early] at found
    obtain ⟨ending, _⟩ := eq_of_first_quote (fun c member => plain c (List.mem_of_mem_drop member))
      labelled.opening plainToo isFirst found
    have whole : CallHead words (head.take offset ++ other) := by
      rw [← ending, List.take_append_drop]
      exact labelled.head
    have none := congrArg List.length (callees.head_whole whole isHead)
    rw [List.length_take, List.length_nil] at none
    omega
  · obtain ⟨later, rfl⟩ := Nat.exists_eq_add_of_lt (Nat.lt_of_not_le early)
    rw [Nat.add_assoc, ← List.drop_drop, List.drop_left, List.drop_succ_cons,
      List.drop_append_of_le_length (by omega)] at found
    obtain ⟨ending, _⟩ :=
      eq_of_first_quote (fun c member => labelled.plain c (List.mem_of_mem_drop member))
        labelled.closing plainToo isFirst found
    refine ⟨ending ▸ List.drop_suffix later body, ?_⟩
    rw [← ending, List.length_drop]
    omega

end Heads

namespace Skip

variable {call : Skip} {words : List String}

def Calls (call : Skip) (words : List String) : Prop :=
  ∀ text rest, call.after? text = some rest ↔ ∃ word ∈ words, text = word.toList ++ rest

theorem calls_word (name : String) : (word name.toList).Calls [name] := by
  intro text rest
  simp [after?, afterWord_eq_some_iff]

theorem calls_either {first second : String} (apart : ¬ first.toList <+: second.toList)
    (apartToo : ¬ second.toList <+: first.toList) :
    (either (word first.toList) (word second.toList)).Calls [first, second] := by
  intro text rest
  simp only [after?, Option.or_eq_some_iff, afterWord_eq_some_iff, List.mem_cons,
    List.not_mem_nil, or_false, exists_eq_or_imp, exists_eq_left]
  refine or_congr_right (and_iff_right_of_imp ?_)
  rintro rfl
  cases passed : afterWord first.toList (second.toList ++ rest) with
  | none => rfl
  | some remains =>
    have here : first.toList <+: second.toList ++ rest := ⟨_, (afterWord_eq_some_iff.1 passed).symm⟩
    rcases List.prefix_or_prefix_of_prefix here (List.prefix_append _ _) with one | two
    · exact absurd one apart
    · exact absurd two apartToo

theorem Calls.after?_parenthesis (calls : call.Calls words) {text rest : List Char} :
    (call ++ word ['(']).after? text = some rest ↔
      ∃ name ∈ words, text = name.toList ++ '(' :: rest := by
  rw [after?_append, Option.bind_eq_some_iff]
  constructor
  · rintro ⟨middle, named, opened⟩
    obtain ⟨name, known, rfl⟩ := (calls _ _).1 named
    obtain rfl : middle = '(' :: rest := afterWord_eq_some_iff.1 opened
    exact ⟨name, known, rfl⟩
  · rintro ⟨name, known, rfl⟩
    exact ⟨'(' :: rest, (calls _ _).2 ⟨name, known, rfl⟩, afterWord_eq_some_iff.2 rfl⟩

theorem Calls.after?_lead (calls : call.Calls words) {text rest : List Char} :
    (labelShape call).lead.after? text = some rest ↔
      ∃ head quote, CallHead words head ∧ isQuote quote = true ∧ text = head ++ quote :: rest := by
  have visible : ∀ c ∈ ['\'', '"'], isBlank c = false := by
    intro c member
    rw [← List.contains_iff_mem, ← isQuote_eq_contains] at member
    exact (sign_of_quote member).2.1
  have lead : (labelShape call).lead.after? text =
      ((call ++ word ['(']).after? text).bind (mark ['\'', '"']).after? := by
    rw [mark, ← isQuote_eq_contains]
    exact Option.bind_assoc _ _ _
  rw [lead, Option.bind_eq_some_iff]
  constructor
  · rintro ⟨middle, opened, passed⟩
    obtain ⟨name, known, rfl⟩ := calls.after?_parenthesis.1 opened
    obtain ⟨gap, quote, blank, isFirst, rfl⟩ := (after?_mark_iff visible).1 passed
    refine ⟨_, quote, ⟨name, known, gap, blank, rfl⟩, ?_, by simp⟩
    rwa [isQuote_eq_contains, List.contains_iff_mem]
  · rintro ⟨_, quote, ⟨name, known, gap, blank, rfl⟩, isFirst, rfl⟩
    rw [isQuote_eq_contains, List.contains_iff_mem] at isFirst
    refine ⟨gap ++ quote :: rest, calls.after?_parenthesis.2 ⟨name, known, by simp⟩, ?_⟩
    exact (after?_mark_iff visible).2 ⟨gap, quote, blank, isFirst, rfl⟩

theorem Calls.read?_label_iff (calls : call.Calls words) {text body rest : List Char} :
    (labelShape call).read? text = some (body, rest) ↔
      ∃ head opening closing, Labelled words head opening body closing ∧
        text = head ++ opening :: (body ++ closing :: rest) := by
  rw [Shape.read?_eq_some_iff]
  constructor
  · rintro ⟨after, passed, whole, closed⟩
    obtain ⟨head, opening, isHead, isFirst, rfl⟩ := calls.after?_lead.1 passed
    cases after with
    | nil => cases closed
    | cons closing more =>
      have quote : isQuote closing = true := by simpa [labelShape] using whole.ends closing rfl
      simp only [labelShape, after?, quote, if_true, Option.some.injEq] at closed
      subst closed
      have plain : ∀ c ∈ body, isQuote c = false := by simpa [labelShape] using whole.inside
      exact ⟨head, opening, closing, ⟨isHead, isFirst, whole.filled, plain, quote⟩, rfl⟩
  · rintro ⟨head, opening, closing, labelled, rfl⟩
    refine ⟨closing :: rest, ?_, ⟨labelled.filled, ?_, ?_⟩, ?_⟩
    · exact calls.after?_lead.2 ⟨head, opening, labelled.head, labelled.opening, rfl⟩
    · simpa [labelShape] using labelled.plain
    · simpa [labelShape] using labelled.closing
    · simp [labelShape, after?, labelled.closing]

end Skip

end CodeInventory.Source
