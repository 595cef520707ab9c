import CodeInventory.Proofs.Source.SharedQuotes

namespace CodeInventory.Source

open CodeInventory.Text Occurrence Skip

def Alone (text : List Char) (start : Nat) : Prop :=
  ∀ c ∈ (text.take start).getLast?, isWord c = false

instance (text : List Char) (start : Nat) : Decidable (Alone text start) :=
  decidable_of_iff ((text.take start).getLast?.all (!isWord ·) = true) <| by
    simp [Alone, Option.all_eq_true]

/-- The text has somewhere a call with the label, whose name is a whole run of word characters and
one of the callees. -/
def CalledBy (Callee : List Char → Prop) (text label : List Char) : Prop :=
  ∃ before callee gap opening closing after,
    Callee callee ∧ (∀ c ∈ callee, isWord c = true) ∧ (∀ c ∈ before.getLast?, isWord c = false) ∧
    (∀ c ∈ gap, isBlank c = true) ∧ isQuote opening = true ∧ isQuote closing = true ∧
    text = before ++ (callee ++ '(' :: (gap ++ opening :: (label ++ closing :: after)))

def IsOneOf (words : List String) (callee : List Char) : Prop :=
  ∃ word ∈ words, callee = word.toList

def EndsInOneOf (words : List String) (callee : List Char) : Prop :=
  ∃ word ∈ words, word.toList <:+ callee

theorem exists_last_letters (text : List Char) :
    ∃ front letters, text = front ++ letters ∧ (∀ c ∈ letters, isWord c = true) ∧
      ∀ c ∈ front.getLast?, isWord c = false := by
  refine ⟨(text.reverse.dropWhile isWord).reverse, (text.reverse.takeWhile isWord).reverse,
    ?_, ?_, ?_⟩
  · rw [← List.reverse_append, List.takeWhile_append_dropWhile, List.reverse_reverse]
  · intro c member
    exact List.all_eq_true.1 List.all_takeWhile c (List.mem_reverse.1 member)
  · rw [List.getLast?_reverse]
    exact head?_dropWhile_stops isWord text.reverse

section Callees

variable {words : List String} {text : List Char}

/-- A labelled call stems from a name that ends in one of the words. -/
theorem LabelAt.calledBy (keywords : ∀ word ∈ words, IsKeyword word) {occurrence : Occurrence}
    (labelled : LabelAt words text occurrence) :
    CalledBy (EndsInOneOf words) text occurrence.run := by
  obtain ⟨_, opening, closing, after, ⟨⟨word, known, gap, blank, rfl⟩, isFirst, _, _, isLast⟩,
    split, _⟩ := labelled
  obtain ⟨front, letters, before, inName, stops⟩ :=
    exists_last_letters (text.take occurrence.start)
  refine ⟨front, letters ++ word.toList, gap, opening, closing, after,
    ⟨word, known, List.suffix_append _ _⟩, fun c member => ?_, stops, blank, isFirst, isLast, ?_⟩
  · rcases List.mem_append.1 member with inLetters | inWord
    · exact inName c inLetters
    · exact (keywords word known).letters c inWord
  · rw [← List.take_append_drop occurrence.start text, before, split]
    simp

theorem calledBy_isOneOf_iff (keywords : ∀ word ∈ words, IsKeyword word) {label : List Char}
    (filled : label ≠ []) (plain : ∀ c ∈ label, isQuote c = false) :
    CalledBy (IsOneOf words) text label ↔
      ∃ occurrence, LabelAt words text occurrence ∧ Alone text occurrence.start ∧
        occurrence.run = label := by
  constructor
  · rintro ⟨before, _, gap, opening, closing, after, ⟨word, known, rfl⟩, _, alone, blank, isFirst,
      isLast, rfl⟩
    have labelled : Labelled words (word.toList ++ '(' :: gap) opening label closing :=
      ⟨⟨word, known, gap, blank, rfl⟩, isFirst, filled, plain, isLast⟩
    refine ⟨⟨before.length, before.length + (word.toList ++ '(' :: gap).length + label.length + 2,
      label⟩, ⟨_, opening, closing, after, labelled, ?_, rfl⟩, ?_, rfl⟩
    · rw [List.drop_left, List.append_assoc, List.cons_append]
    · rw [Alone, List.take_left]
      exact alone
  · rintro ⟨occurrence, ⟨_, opening, closing, after,
      ⟨⟨word, known, gap, blank, rfl⟩, isFirst, _, _, isLast⟩, split, _⟩, alone, rfl⟩
    refine ⟨text.take occurrence.start, word.toList, gap, opening, closing, after,
      ⟨word, known, rfl⟩, (keywords word known).letters, alone, blank, isFirst, isLast, ?_⟩
    have halves := List.take_append_drop occurrence.start text
    rw [split] at halves
    simpa using halves.symm

/-- Whether shown labels stem from the words is a question about those that a longer name leads
to. -/
theorem all_calledBy_iff (keywords : ∀ word ∈ words, IsKeyword word)
    {found shown : List Occurrence}
    (complete : ∀ occurrence, occurrence ∈ found ↔ LabelAt words text occurrence)
    (chosen : ∀ occurrence ∈ shown, occurrence ∈ found) :
    (∀ occurrence ∈ shown, CalledBy (IsOneOf words) text occurrence.run) ↔
      ∀ occurrence ∈ shown, ¬ Alone text occurrence.start →
        ∃ other ∈ found, Alone text other.start ∧ other.run = occurrence.run := by
  refine forall₂_congr fun occurrence isShown => ?_
  have isFound := chosen occurrence isShown
  obtain ⟨_, _, _, _, labelled, _⟩ := (complete occurrence).1 isFound
  simp only [calledBy_isOneOf_iff keywords labelled.filled labelled.plain, ← complete]
  constructor
  · exact fun called _ => called
  · intro otherwise
    by_cases alone : Alone text occurrence.start
    · exact ⟨occurrence, isFound, alone, rfl⟩
    · exact otherwise alone

theorem callHead_append_iff {others : List String} {piece : List Char} :
    CallHead (words ++ others) piece ↔ CallHead words piece ∨ CallHead others piece := by
  simp only [CallHead, List.mem_append, or_and_right, exists_or]

theorem labelAt_append_iff {others : List String} {occurrence : Occurrence} :
    LabelAt (words ++ others) text occurrence ↔
      LabelAt words text occurrence ∨ LabelAt others text occurrence := by
  constructor
  · rintro ⟨head, opening, closing, after, labelled, place⟩
    rcases callHead_append_iff.1 labelled.head with one | two
    · exact .inl ⟨head, opening, closing, after, { labelled with head := one }, place⟩
    · exact .inr ⟨head, opening, closing, after, { labelled with head := two }, place⟩
  · rintro (⟨head, opening, closing, after, labelled, place⟩ |
      ⟨head, opening, closing, after, labelled, place⟩)
    · exact ⟨head, opening, closing, after,
        { labelled with head := callHead_append_iff.2 (.inl labelled.head) }, place⟩
    · exact ⟨head, opening, closing, after,
        { labelled with head := callHead_append_iff.2 (.inr labelled.head) }, place⟩

end Callees

def StemFrom (Callee : List Char → Prop) (text : String) (labels : List String) : Prop :=
  ∀ label ∈ labels, CalledBy Callee text.toList label.toList

theorem stemFrom_iff {Callee : List Char → Prop} {labels : List String} {text : String}
    {shown : List Occurrence}
    (known : ∀ label, label ∈ labels ↔ ∃ occurrence ∈ shown, String.ofList occurrence.run = label) :
    StemFrom Callee text labels ↔
      ∀ occurrence ∈ shown, CalledBy Callee text.toList occurrence.run := by
  constructor
  · intro stem occurrence isShown
    have called := stem _ ((known _).2 ⟨occurrence, isShown, rfl⟩)
    rwa [String.toList_ofList] at called
  · intro called label member
    obtain ⟨occurrence, isShown, rfl⟩ := (known label).1 member
    rw [String.toList_ofList]
    exact called occurrence isShown

/-- The labels of shown calls stem from names that end in one of the words, and from the words
themselves exactly if those that a longer name leads to do so. -/
structure StemFromEndings (words : List String) (text : String) (labels : List String)
    (found shown : List Occurrence) : Prop where
  endings : StemFrom (EndsInOneOf words) text labels
  words_iff : StemFrom (IsOneOf words) text labels ↔
    ∀ occurrence ∈ shown, ¬ Alone text.toList occurrence.start →
      ∃ other ∈ found, Alone text.toList other.start ∧ other.run = occurrence.run

theorem stemFromEndings {words labels : List String} {text : String}
    {found shown : List Occurrence} (keywords : ∀ word ∈ words, IsKeyword word)
    (complete : ∀ occurrence, occurrence ∈ found ↔ LabelAt words text.toList occurrence)
    (chosen : ∀ occurrence ∈ shown, occurrence ∈ found)
    (known : ∀ label, label ∈ labels ↔ ∃ occurrence ∈ shown, String.ofList occurrence.run = label) :
    StemFromEndings words text labels found shown := by
  constructor
  · rw [stemFrom_iff known]
    intro occurrence isShown
    exact ((complete occurrence).1 (chosen occurrence isShown)).calledBy keywords
  · rw [stemFrom_iff known]
    exact all_calledBy_iff keywords complete chosen

theorem labels_stem_from_endings (text : String) :
    (∃ found shown, LabelsInTurn ["it", "test"] text found shown ∧
      StemFromEndings ["it", "test"] text (behaviors text) found shown) ∧
    ∃ found shown others shownToo, LabelsInTurn ["bench"] text found shown ∧
      LabelsInTurn ["describe"] text others shownToo ∧
      StemFromEndings ["bench", "describe"] text (benchmarks text).toList (found ++ others)
        (shown ++ shownToo) := by
  constructor
  · have turns := labelsInTurn areCallees_behaviors calls_behaviors text
    refine ⟨_, _, turns, stemFromEndings areCallees_behaviors.keyword turns.complete
      (fun _ isShown => turns.chosen.subset isShown) fun label => ?_⟩
    rw [behaviors, capturesIn_eq_map_reported, List.mem_map]
    rfl
  · have benches := labelsInTurn areCallees_benchmarks (calls_word "bench") text
    have suites := labelsInTurn areCallees_suites (calls_word "describe") text
    refine ⟨_, _, _, _, benches, suites, stemFromEndings (by decide +kernel)
      (fun occurrence => ?_) (fun occurrence isShown => ?_) fun label => ?_⟩
    · rw [List.mem_append, benches.complete, suites.complete]
      exact labelAt_append_iff.symm
    · rcases List.mem_append.1 isShown with one | two
      · exact List.mem_append_left _ (benches.chosen.subset one)
      · exact List.mem_append_right _ (suites.chosen.subset two)
    · simp only [List.mem_append, or_and_right, exists_or]
      exact mem_benchmarks_iff

/-- What a longer name leads to need not be the label of any call of the words. -/
theorem longer_names_count_as_calls :
    ¬ StemFrom (IsOneOf ["it", "test"]) "submit(\"form\")" (behaviors "submit(\"form\")") ∧
      ¬ StemFrom (IsOneOf ["bench", "describe"]) "workbench(\"tools\")"
        (benchmarks "workbench(\"tools\")").toList := by
  constructor
  · intro stem
    have never : ∀ place ∈ behaviorShape.occurrences "submit(\"form\")".toList,
        ¬ Alone "submit(\"form\")".toList place.start := by decide +kernel
    obtain ⟨occurrence, labelled, alone, _⟩ :=
      (calledBy_isOneOf_iff areCallees_behaviors.keyword (by decide)
        (plain_of_all (by decide +kernel))).1 (stem "form" (by decide +kernel))
    exact never occurrence ((mem_occurrences_iff_labelAt calls_behaviors).2 labelled) alone
  · intro stem
    have calls : (either (word "bench".toList) (word "describe".toList)).Calls
        ["bench", "describe"] := calls_either (by decide +kernel) (by decide +kernel)
    have never : ∀ place ∈ (labelShape (either (word "bench".toList)
        (word "describe".toList))).occurrences "workbench(\"tools\")".toList,
        ¬ Alone "workbench(\"tools\")".toList place.start := by decide +kernel
    obtain ⟨occurrence, labelled, alone, _⟩ :=
      (calledBy_isOneOf_iff (by decide +kernel) (by decide)
        (plain_of_all (by decide +kernel))).1 (stem "tools" (by decide +kernel))
    exact never occurrence ((mem_occurrences_iff_labelAt calls).2 labelled) alone

end CodeInventory.Source
