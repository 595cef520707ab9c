import CodeInventory.Proofs.Source.Declarations
import CodeInventory.Proofs.Source.SharedQuotes

namespace CodeInventory.Source

open CodeInventory.Text Occurrence Skip

def quotedCall (before word : String) (quote : Char) (body after : String) : String :=
  before ++ word ++ "(" ++ String.singleton quote ++ body ++ String.singleton quote ++ after

/-- The text up to its first quote. -/
def upToQuote (body : List Char) : List Char := body.takeWhile (!isQuote ·)

theorem upToQuote_plain (body : List Char) : ∀ c ∈ upToQuote body, isQuote c = false := by
  intro c member
  simpa using List.all_eq_true.1 (List.all_takeWhile (p := (!isQuote ·))) c member

theorem upToQuote_eq_self_iff {body : List Char} :
    upToQuote body = body ↔ ∀ c ∈ body, isQuote c = false := by
  constructor
  · intro same
    rw [← same]
    exact upToQuote_plain body
  · intro plain
    have whole : (body ++ []).takeWhile (!isQuote ·) = body :=
      takeWhile_append_stop (by simpa using plain) (by simp)
    rwa [List.append_nil] at whole

theorem exists_quote_after (body rest : List Char) {quote : Char} (isLast : isQuote quote = true) :
    ∃ closing more, isQuote closing = true ∧
      body ++ quote :: rest = upToQuote body ++ closing :: more := by
  have split : body = upToQuote body ++ body.dropWhile (!isQuote ·) :=
    List.takeWhile_append_dropWhile.symm
  cases left : body.dropWhile (!isQuote ·) with
  | nil =>
    rw [left, List.append_nil] at split
    exact ⟨quote, rest, isLast, by rw [← split]⟩
  | cons closing more =>
    rw [left] at split
    have stops := head?_dropWhile_stops (!isQuote ·) body closing (by rw [left]; rfl)
    refine ⟨closing, more ++ quote :: rest, by simpa using stops, ?_⟩
    calc body ++ quote :: rest
      _ = (upToQuote body ++ closing :: more) ++ quote :: rest := by rw [← split]
      _ = upToQuote body ++ closing :: (more ++ quote :: rest) := by simp

theorem Shape.captured_of_mem_captures {shape : Shape} {text run : List Char}
    (member : run ∈ shape.captures text) : ∀ c ∈ run, shape.captured c = true := by
  rw [Shape.captures_eq_reported, List.mem_map] at member
  obtain ⟨occurrence, shown, rfl⟩ := member
  have found := Shape.mem_occurrences.1 (mem_of_mem_reportedFrom shown)
  obtain ⟨rest, read, _⟩ := Shape.at?_eq_some_iff.1 found
  obtain ⟨after, _, whole, _⟩ := Shape.read?_eq_some_iff.1 read
  exact whole.inside

section FirstLabel

variable {call : Skip} {words : List String} {head : List Char}

theorem AreCallees.captures_after_plain (callees : AreCallees words) (calls : call.Calls words)
    {before rest : List Char} {quote : Char} (plain : ∀ c ∈ before, isQuote c = false)
    (isHead : CallHead words head) (isFirst : isQuote quote = true) :
    (labelShape call).captures (before ++ (head ++ quote :: rest)) =
      (labelShape call).captures (head ++ quote :: rest) := by
  apply Shape.captures_append_of_missing
  intro c more ending
  cases found : (labelShape call).read? (c :: more ++ (head ++ quote :: rest)) with
  | none => rfl
  | some pair =>
    obtain ⟨other, opening, closing, labelled, split⟩ := calls.read?_label_iff.1 found
    rw [← List.append_assoc] at split
    have plainFront : ∀ d ∈ c :: more ++ head, isQuote d = false := by
      intro d member
      rcases List.mem_append.1 member with inFront | inHead
      · exact plain d (ending.subset inFront)
      · exact callees.head_plain isHead d inHead
    obtain ⟨same, _⟩ := eq_of_first_quote plainFront isFirst
      (callees.head_plain labelled.head) labelled.opening split
    have none := callees.head_whole (same ▸ labelled.head) isHead
    cases none

/-- The first label of a text whose first quote opens the argument of a call. -/
theorem AreCallees.captures_quoted (callees : AreCallees words) (calls : call.Calls words)
    {before body : List Char} {quote : Char} (plain : ∀ c ∈ before, isQuote c = false)
    (isHead : CallHead words head) (isFirst : isQuote quote = true)
    (filled : upToQuote body ≠ []) (rest : List Char) :
    ∃ more, (labelShape call).captures (before ++ (head ++ quote :: (body ++ quote :: rest))) =
      upToQuote body :: more := by
  obtain ⟨closing, more, isLast, split⟩ := exists_quote_after body rest isFirst
  have labelled : Labelled words head quote (upToQuote body) closing :=
    ⟨isHead, isFirst, filled, upToQuote_plain body, isLast⟩
  refine ⟨(labelShape call).captures more, ?_⟩
  rw [callees.captures_after_plain calls plain isHead isFirst, split]
  exact Shape.captures_of_read?
    (calls.read?_label_iff.2 ⟨head, quote, closing, labelled, rfl⟩)

end FirstLabel

theorem toList_quotedCall (before word : String) (quote : Char) (body after : String) :
    (quotedCall before word quote body after).toList =
      before.toList ++ ((word.toList ++ ['(']) ++
        quote :: (body.toList ++ quote :: after.toList)) := by
  simp [quotedCall, String.toList_append]

theorem plain_of_mem_capturesIn {call : Skip} {text label : String}
    (member : label ∈ (labelShape call).capturesIn text) :
    ∀ c ∈ label.toList, isQuote c = false := by
  rw [mem_capturesIn] at member
  simpa [labelShape] using Shape.captured_of_mem_captures member

section QuotedCall

variable {call : Skip} {words : List String} {before word body : String} {quote : Char}

theorem AreCallees.head?_capturesIn (callees : AreCallees words) (calls : call.Calls words)
    (known : word ∈ words) (plain : ∀ c ∈ before.toList, isQuote c = false)
    (isFirst : isQuote quote = true) (filled : upToQuote body.toList ≠ []) (after : String) :
    ((labelShape call).capturesIn (quotedCall before word quote body after)).head? =
      some (String.ofList (upToQuote body.toList)) := by
  have isHead : CallHead words (word.toList ++ ['(']) := ⟨word, known, [], by simp, rfl⟩
  obtain ⟨more, captured⟩ := callees.captures_quoted calls plain isHead isFirst filled after.toList
  rw [Shape.capturesIn, toList_quotedCall, captured, List.map_cons, List.head?_cons]

theorem AreCallees.head?_capturesIn_iff (callees : AreCallees words) (calls : call.Calls words)
    (known : word ∈ words) (plain : ∀ c ∈ before.toList, isQuote c = false)
    (isFirst : isQuote quote = true) (filled : body ≠ "") (after : String) :
    ((labelShape call).capturesIn (quotedCall before word quote body after)).head? = some body ↔
      ∀ c ∈ body.toList, isQuote c = false := by
  constructor
  · intro first
    exact plain_of_mem_capturesIn (List.mem_of_head? first)
  · intro plainBody
    have whole := upToQuote_eq_self_iff.2 plainBody
    have left : upToQuote body.toList ≠ [] := by
      rw [whole]
      simpa using filled
    rw [callees.head?_capturesIn calls known plain isFirst left after, whole,
      String.ofList_toList]

end QuotedCall

theorem quoted_bodies_are_whole_iff_plain (before : String) (quote : Char) (body after : String)
    (plain : ∀ c ∈ before.toList, isQuote c = false) (isFirst : isQuote quote = true)
    (filled : body ≠ "") :
    (∀ word ∈ ["it", "test"],
      ((behaviors (quotedCall before word quote body after)).head? = some body ↔
        ∀ c ∈ body.toList, isQuote c = false) ∧
      (upToQuote body.toList ≠ [] →
        (behaviors (quotedCall before word quote body after)).head? =
          some (String.ofList (upToQuote body.toList)))) ∧
    ∀ word ∈ ["bench", "describe"],
      (body ∈ benchmarks (quotedCall before word quote body after) ↔
        ∀ c ∈ body.toList, isQuote c = false) := by
  refine ⟨fun word known => ⟨?_, ?_⟩, fun word known => ?_⟩
  · exact areCallees_behaviors.head?_capturesIn_iff calls_behaviors known plain isFirst filled after
  · intro left
    exact areCallees_behaviors.head?_capturesIn calls_behaviors known plain isFirst left after
  · rw [benchmarks, NameSet.mem_ofList, List.mem_append]
    constructor
    · rintro (inBenches | inSuites)
      · exact plain_of_mem_capturesIn inBenches
      · exact plain_of_mem_capturesIn inSuites
    · intro plainBody
      rcases List.mem_cons.1 known with rfl | known
      · have first := areCallees_benchmarks.head?_capturesIn_iff (calls_word "bench")
          (.head _) plain isFirst filled after
        exact .inl (List.mem_of_head? (first.2 plainBody))
      · have first := areCallees_suites.head?_capturesIn_iff (calls_word "describe") known plain
          isFirst filled after
        exact .inr (List.mem_of_head? (first.2 plainBody))

theorem label_with_parentheses_is_whole :
    (∀ c ∈ "group(name, () => ".toList, isQuote c = false) ∧ isQuote '\'' = true ∧
      "adds (1, 2)" ≠ "" ∧
      (behaviors (quotedCall "group(name, () => " "test" '\'' "adds (1, 2)" ", run)")).head? =
        some "adds (1, 2)" ∧
      "adds (1, 2)" ∈
        benchmarks (quotedCall "group(name, () => " "describe" '\'' "adds (1, 2)" ", run)") := by
  have plain : ∀ c ∈ "group(name, () => ".toList, isQuote c = false :=
    plain_of_all (by decide +kernel)
  have isFirst : isQuote '\'' = true := by decide +kernel
  have filled : "adds (1, 2)" ≠ "" := by decide +kernel
  have plainBody : ∀ c ∈ "adds (1, 2)".toList, isQuote c = false :=
    plain_of_all (by decide +kernel)
  have whole := quoted_bodies_are_whole_iff_plain _ _ _ ", run)" plain isFirst filled
  refine ⟨plain, isFirst, filled, ?_, ?_⟩
  · exact (whole.1 "test" (by decide)).1.2 plainBody
  · exact (whole.2 "describe" (by decide)).2 plainBody

/-- An apostrophe between double quotes ends the label. -/
theorem apostrophe_ends_a_label :
    isQuote '"' = true ∧
      ('"' ∉ "don't panic".toList ∧ '\\' ∉ "don't panic".toList ∧ '\n' ∉ "don't panic".toList) ∧
      (behaviors (quotedCall "" "it" '"' "don't panic" ", run)")).head? ≠ some "don't panic" ∧
      "don't panic" ∉ benchmarks (quotedCall "" "bench" '"' "don't panic" ", run)") := by
  refine ⟨?_, ?_, ?_, ?_⟩ <;> decide +kernel

end CodeInventory.Source
