import CodeInventory.Proofs.Source.Calls

namespace CodeInventory.Source

open CodeInventory.Text Occurrence Skip

def LabelAt (words : List String) (text : List Char) (occurrence : Occurrence) : Prop :=
  ∃ head opening closing after, Labelled words head opening occurrence.run closing ∧
    text.drop occurrence.start = head ++ opening :: (occurrence.run ++ closing :: after) ∧
    occurrence.stop = occurrence.start + head.length + occurrence.run.length + 2

/-- The body of `previous` ends in the head of `next`, and its second quote is the first one of
`next`. -/
def SharesQuote (words : List String) (previous next : Occurrence) : Prop :=
  ∃ head, CallHead words head ∧ head <:+ previous.run ∧
    next.start + head.length + 1 = previous.stop

/-- The labelled calls of a text, in order, and those of them that are shown: the ones that do not
start before the end of one shown earlier. -/
structure LabelsInTurn (words : List String) (text : String)
    (found shown : List Occurrence) : Prop where
  increasing : found.Pairwise fun first second => first.start < second.start
  complete : ∀ occurrence, occurrence ∈ found ↔ LabelAt words text.toList occurrence
  chosen : shown.Sublist found
  inTurn : ∀ occurrence ∈ found, (occurrence ∈ shown ↔ ∀ earlier ∈ shown,
    earlier.start < occurrence.start → earlier.stop ≤ occurrence.start)
  leftOut : ∀ occurrence ∈ found, (occurrence ∉ shown ↔ ∃ index previous,
    found[index]? = some previous ∧ found[index + 1]? = some occurrence ∧ previous ∈ shown ∧
    SharesQuote words previous occurrence)

section Scan

variable {call : Skip} {words : List String}

theorem mem_occurrences_iff_labelAt (calls : call.Calls words) {text : List Char}
    {occurrence : Occurrence} :
    occurrence ∈ (labelShape call).occurrences text ↔ LabelAt words text occurrence := by
  rw [Shape.mem_occurrences, Shape.at?_eq_some_iff]
  constructor
  · rintro ⟨rest, read, _, stop⟩
    obtain ⟨head, opening, closing, labelled, split⟩ := calls.read?_label_iff.1 read
    have lengths := congrArg List.length split
    simp only [List.length_drop, List.length_append, List.length_cons] at lengths
    exact ⟨head, opening, closing, rest, labelled, split, by omega⟩
  · rintro ⟨head, opening, closing, after, labelled, split, stop⟩
    have lengths := congrArg List.length split
    simp only [List.length_drop, List.length_append, List.length_cons] at lengths
    refine ⟨after, calls.read?_label_iff.2 ⟨head, opening, closing, labelled, split⟩, rfl, ?_⟩
    omega

theorem AreCallees.sharesQuote_iff (callees : AreCallees words) {text : List Char}
    {first second : Occurrence} (one : LabelAt words text first)
    (two : LabelAt words text second) (less : first.start < second.start) :
    second.start < first.stop ↔ SharesQuote words first second := by
  constructor
  · intro inside
    obtain ⟨head, opening, closing, after, labelled, split, stop⟩ := one
    obtain ⟨other, quote, _, _, labelledToo, found, _⟩ := two
    obtain ⟨offset, later⟩ := Nat.exists_eq_add_of_le (Nat.le_of_lt less)
    rw [later, ← List.drop_drop, split] at found
    obtain ⟨ending, meets⟩ := labelled.overlap callees labelledToo.head labelledToo.opening
      (by omega) (by omega) found
    exact ⟨other, labelledToo.head, ending, by omega⟩
  · rintro ⟨head, _, _, meets⟩
    omega

/-- Two calls that shared a quote with the same label would start at one place. -/
theorem AreCallees.sparse (callees : AreCallees words) {text : List Char}
    {found : List Occurrence} (labels : ∀ occurrence ∈ found, LabelAt words text occurrence) :
    Sparse found := by
  intro first isFirst second isSecond third isThird less lessToo
  apply Nat.le_of_not_lt
  intro inside
  have one := labels first isFirst
  obtain ⟨head, isHead, ending, meets⟩ :=
    (callees.sharesQuote_iff one (labels second isSecond) less).1 (by omega)
  obtain ⟨other, isOther, endingToo, meetsToo⟩ :=
    (callees.sharesQuote_iff one (labels third isThird) (by omega)).1 inside
  obtain ⟨front, rfl⟩ := List.suffix_of_suffix_length_le endingToo ending (by omega)
  rw [callees.head_whole isHead isOther, List.nil_append] at meets
  omega

theorem labelsInTurn (callees : AreCallees words) (calls : call.Calls words) (text : String) :
    LabelsInTurn words text ((labelShape call).occurrences text.toList)
      (reported ((labelShape call).occurrences text.toList)) := by
  have increasing := Shape.occurrences_increasing (labelShape call) text.toList
  have complete : ∀ occurrence, occurrence ∈ (labelShape call).occurrences text.toList ↔
      LabelAt words text.toList occurrence := fun _ => mem_occurrences_iff_labelAt calls
  have sparse := callees.sparse fun occurrence => (complete occurrence).1
  refine ⟨increasing, complete, reportedFrom_sublist 0 _, ?_, ?_⟩
  · intro occurrence member
    rw [reported, mem_reportedFrom_iff increasing, and_iff_right member,
      and_iff_right (Nat.zero_le _)]
  · intro occurrence member
    refine left_out_iff_exists increasing sparse ?_ member
    intro first isFirst second isSecond
    exact callees.sharesQuote_iff ((complete first).1 isFirst) ((complete second).1 isSecond)

theorem capturesIn_eq_map_reported (shape : Shape) (text : String) :
    shape.capturesIn text =
      (reported (shape.occurrences text.toList)).map fun occurrence =>
        String.ofList occurrence.run := by
  rw [Shape.capturesIn, Shape.captures_eq_reported, List.map_map]
  rfl

end Scan

theorem areCallees_behaviors : AreCallees ["it", "test"] := ⟨by decide +kernel, by decide +kernel⟩

theorem areCallees_benchmarks : AreCallees ["bench"] := ⟨by decide +kernel, by decide +kernel⟩

theorem areCallees_suites : AreCallees ["describe"] := ⟨by decide +kernel, by decide +kernel⟩

theorem calls_behaviors :
    (either (word "it".toList) (word "test".toList)).Calls ["it", "test"] :=
  calls_either (by decide +kernel) (by decide +kernel)

theorem mem_benchmarks_iff {text label : String} :
    label ∈ benchmarks text ↔
      (∃ occurrence ∈ reported (benchmarkShape.occurrences text.toList),
        String.ofList occurrence.run = label) ∨
      ∃ occurrence ∈ reported (suiteShape.occurrences text.toList),
        String.ofList occurrence.run = label := by
  rw [benchmarks, NameSet.mem_ofList, List.mem_append, capturesIn_eq_map_reported,
    capturesIn_eq_map_reported, List.mem_map, List.mem_map]

theorem labels_are_reported_in_turn (text : String) :
    (∃ found shown, LabelsInTurn ["it", "test"] text found shown ∧
      behaviors text = shown.map fun occurrence => String.ofList occurrence.run) ∧
    ∃ found shown others shownToo, LabelsInTurn ["bench"] text found shown ∧
      LabelsInTurn ["describe"] text others shownToo ∧
      ∀ label, label ∈ benchmarks text ↔
        (∃ occurrence ∈ shown, String.ofList occurrence.run = label) ∨
        ∃ occurrence ∈ shownToo, String.ofList occurrence.run = label := by
  constructor
  · have turns := labelsInTurn areCallees_behaviors calls_behaviors text
    exact ⟨_, _, turns, capturesIn_eq_map_reported behaviorShape text⟩
  · have benches := labelsInTurn areCallees_benchmarks (calls_word "bench") text
    have suites := labelsInTurn areCallees_suites (calls_word "describe") text
    exact ⟨_, _, _, _, benches, suites, fun label => mem_benchmarks_iff⟩

example : behaviors "it('one it('two it('three')" = ["one it(", "three"] := by cbv

end CodeInventory.Source
