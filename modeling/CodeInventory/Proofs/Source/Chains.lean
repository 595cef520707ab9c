import CodeInventory.Proofs.Source.Declarations
import CodeInventory.Proofs.Source.Exports

namespace CodeInventory.Source

open CodeInventory.Text Occurrence Skip

/-- In the text there is at `start` a head and then a whole run of word characters, up to `stop`. -/
def NamedAt (Head : List Char → Prop) (text : List Char) (occurrence : Occurrence) : Prop :=
  ∃ piece after, Head piece ∧ Run isWord occurrence.run after ∧
    text.drop occurrence.start = piece ++ (occurrence.run ++ after) ∧
    occurrence.stop = occurrence.start + piece.length + occurrence.run.length

/-- The keyword of `next` is made of the last letters of the name of `previous`. -/
def EndsInKeyword (word : String) (previous next : Occurrence) : Prop :=
  word.toList <:+ previous.run ∧ next.start + word.toList.length = previous.stop

/-- Each of `count` occurrences is followed by one whose keyword ends its name. -/
def Chained (word : String) (found : List Occurrence) (index count : Nat) : Prop :=
  ∀ step < count, ∃ previous next, found[index + step]? = some previous ∧
    found[index + step + 1]? = some next ∧ EndsInKeyword word previous next

/-- The declarations found in a text, in order, and the names reported of them. -/
structure ReportedInTurn (word : String) (Head : List Char → Prop) (text : String)
    (names : NameSet) (found : List Occurrence) : Prop where
  increasing : found.Pairwise fun first second => first.start < second.start
  complete : ∀ occurrence, occurrence ∈ found ↔ NamedAt Head text.toList occurrence
  names : ∀ name, name ∈ names ↔ (1 < name.length ∧ isReserved name = false) ∧
    ∃ occurrence ∈ reported found, occurrence.run = name.toList
  first : ∀ occurrence, found[0]? = some occurrence → occurrence ∈ reported found
  leftOut : ∀ index previous next, found[index]? = some previous →
    found[index + 1]? = some next →
    (next ∉ reported found ↔ EndsInKeyword word previous next ∧ previous ∈ reported found)
  alternate : ∀ index count first last, Chained word found index count →
    found[index]? = some first → found[index + count]? = some last →
    (last ∈ reported found ↔ (count % 2 = 0 ↔ first ∈ reported found))

theorem mem_occurrences_iff_namedAt {lead : Skip} {Head : List Char → Prop}
    (spells : lead.Spells Head) {text : List Char} {occurrence : Occurrence} :
    occurrence ∈ (declaration lead nothing).occurrences text ↔ NamedAt Head text occurrence := by
  rw [Shape.mem_occurrences, Shape.at?_eq_some_iff]
  constructor
  · rintro ⟨rest, read, _, stop⟩
    obtain ⟨piece, after, head, split, whole, closed⟩ := (read?_declaration_iff spells).1 read
    obtain rfl : after = rest := Option.some.inj closed
    have lengths := congrArg List.length split
    have filled := List.length_pos_iff.2 whole.filled
    simp only [List.length_drop, List.length_append] at lengths
    exact ⟨piece, after, head, whole, split, by omega⟩
  · rintro ⟨piece, after, head, whole, split, stop⟩
    have lengths := congrArg List.length split
    have filled := List.length_pos_iff.2 whole.filled
    simp only [List.length_drop, List.length_append] at lengths
    refine ⟨after, ?_, rfl, by omega⟩
    exact (read?_declaration_iff spells).2 ⟨piece, after, head, split, whole, rfl⟩

theorem HeadedBy.endsInKeyword {word : String} {Head : List Char → Prop}
    (headed : HeadedBy word Head) {text : List Char} {first second : Occurrence}
    (one : NamedAt Head text first) (two : NamedAt Head text second)
    (less : first.start < second.start) (inside : second.start < first.stop) :
    EndsInKeyword word first second := by
  obtain ⟨piece, after, head, whole, split, stop⟩ := one
  obtain ⟨next, rest, nextHead, nextWhole, nextSplit, nextStop⟩ := two
  obtain ⟨gap, more, blanks, rfl⟩ := headed.opens next nextHead
  obtain ⟨offset, later⟩ := Nat.exists_eq_add_of_le (Nat.le_of_lt less)
  rw [later, ← List.drop_drop, split, List.append_assoc, List.append_assoc] at nextSplit
  obtain ⟨ends, tail, _⟩ := headed.overlap head whole blanks (by omega) (by omega) nextSplit
  exact ⟨tail, by omega⟩

theorem sparse_of_endsInKeyword {word : String} {found : List Occurrence}
    (overlap : ∀ first ∈ found, ∀ second ∈ found, first.start < second.start →
      second.start < first.stop → EndsInKeyword word first second) : Sparse found := by
  intro first isFirst second isSecond third isThird less lessToo
  apply Nat.le_of_not_lt
  intro inside
  obtain ⟨_, one⟩ := overlap first isFirst second isSecond less (by omega)
  obtain ⟨_, two⟩ := overlap first isFirst third isThird (by omega) inside
  omega

/-- What starts inside the declaration before it is exactly what starts with the end of its name. -/
theorem left_out_iff_endsInKeyword {word : String} {found : List Occurrence}
    (filled : word.toList ≠ [])
    (increasing : found.Pairwise fun first second => first.start < second.start)
    (overlap : ∀ first ∈ found, ∀ second ∈ found, first.start < second.start →
      second.start < first.stop → EndsInKeyword word first second)
    (index : Nat) (previous next : Occurrence) (here : found[index]? = some previous)
    (there : found[index + 1]? = some next) :
    next ∉ reported found ↔ EndsInKeyword word previous next ∧ previous ∈ reported found := by
  refine left_out_iff_overlaps increasing (sparse_of_endsInKeyword overlap) ?_ here there
  intro first isFirst second isSecond less
  refine ⟨overlap first isFirst second isSecond less, fun ends => ?_⟩
  have positive := List.length_pos_iff.2 filled
  have meets := ends.2
  omega

theorem chain_alternates {word : String} {found : List Occurrence}
    (leftOut : ∀ index previous next, found[index]? = some previous →
      found[index + 1]? = some next →
      (next ∉ reported found ↔ EndsInKeyword word previous next ∧ previous ∈ reported found))
    {index count : Nat} {first last : Occurrence} (chained : Chained word found index count)
    (here : found[index]? = some first) (there : found[index + count]? = some last) :
    last ∈ reported found ↔ (count % 2 = 0 ↔ first ∈ reported found) := by
  induction count generalizing last with
  | zero =>
    obtain rfl : first = last := Option.some.inj (here.symm.trans there)
    simp
  | succ count ih =>
    obtain ⟨previous, next, before, after, ends⟩ := chained count (Nat.lt_succ_self _)
    obtain rfl : next = last := Option.some.inj (after.symm.trans there)
    have known := ih (fun step less => chained step (Nat.lt_succ_of_lt less)) before
    have turned := leftOut _ previous next before after
    rw [and_iff_right ends] at turned
    have parity : (count + 1) % 2 = 0 ↔ ¬ count % 2 = 0 := by omega
    rw [parity]
    by_cases one : first ∈ reported found <;> by_cases two : count % 2 = 0 <;> simp_all

theorem reportedInTurn {word : String} {lead : Skip} {Head : List Char → Prop} {shape : Shape}
    (headed : HeadedBy word Head) (spells : lead.Spells Head) (text : String)
    (plain : shape.captures text.toList = (declaration lead nothing).captures text.toList) :
    ReportedInTurn word Head text (reportable (shape.capturesIn text))
      ((declaration lead nothing).occurrences text.toList) := by
  have increasing := Shape.occurrences_increasing (declaration lead nothing) text.toList
  have complete : ∀ occurrence, occurrence ∈ (declaration lead nothing).occurrences text.toList ↔
      NamedAt Head text.toList occurrence := fun _ => mem_occurrences_iff_namedAt spells
  generalize shown : (declaration lead nothing).occurrences text.toList = found at *
  have overlap : ∀ first ∈ found, ∀ second ∈ found, first.start < second.start →
      second.start < first.stop → EndsInKeyword word first second := by
    intro first isFirst second isSecond
    exact headed.endsInKeyword ((complete first).1 isFirst) ((complete second).1 isSecond)
  have leftOut := left_out_iff_endsInKeyword headed.keyword.filled increasing overlap
  refine ⟨increasing, complete, ?_, ?_, leftOut, ?_⟩
  · intro name
    rw [mem_reportable, mem_capturesIn, plain, Shape.captures_eq_reported, shown, List.mem_map]
  · intro occurrence here
    exact head_mem_reportedFrom (Nat.zero_le _) here
  · intro index count first last chained
    exact chain_alternates leftOut chained

theorem open_declarations_are_reported_in_turn (text : String) :
    (∃ found, ReportedInTurn "class" (SetApart "class") text (classify text).classes found) ∧
    (∃ found, ReportedInTurn "interface" (SetApart "interface") text (classify text).interfaces
      found) ∧
    ∃ found, ReportedInTurn "export" ExportHead text (classify text).exports found := by
  have classWord : IsKeyword "class" := by decide +kernel
  have interfaceWord : IsKeyword "interface" := by decide +kernel
  have unmarkedClass := captures_exportedOr classWord (by decide +kernel) nothing
  have unmarkedInterface := captures_exportedOr interfaceWord (by decide +kernel) nothing
  have classes :=
    reportedInTurn (headedBy_setApart classWord) (spells_keyword _) text (unmarkedClass _)
  have interfaces :=
    reportedInTurn (headedBy_setApart interfaceWord) (spells_keyword _) text (unmarkedInterface _)
  have exports := reportedInTurn headedBy_export spells_export text rfl
  exact ⟨⟨_, classes⟩, ⟨_, interfaces⟩, ⟨_, exports⟩⟩

example : (classify "class class class Foo").classes.toList = ["Foo", "class"] := by cbv

end CodeInventory.Source
