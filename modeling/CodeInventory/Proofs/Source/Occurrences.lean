import CodeInventory.Source.Shape

namespace CodeInventory.Source

structure Occurrence where
  start : Nat
  stop : Nat
  run : List Char
  deriving DecidableEq

namespace Occurrence

/-- The occurrences that a scan reports which may not go back before `free`. -/
def reportedFrom (free : Nat) : List Occurrence → List Occurrence
  | [] => []
  | occurrence :: rest =>
    if occurrence.start < free then reportedFrom free rest
    else occurrence :: reportedFrom occurrence.stop rest

def reported (occurrences : List Occurrence) : List Occurrence := reportedFrom 0 occurrences

theorem reportedFrom_sublist (free : Nat) (occurrences : List Occurrence) :
    (reportedFrom free occurrences).Sublist occurrences := by
  induction occurrences generalizing free with
  | nil => exact .slnil
  | cons first rest ih =>
    rw [reportedFrom]
    split
    · exact (ih free).cons first
    · exact (ih first.stop).cons_cons first

theorem mem_of_mem_reportedFrom {free : Nat} {occurrence : Occurrence}
    {occurrences : List Occurrence} (member : occurrence ∈ reportedFrom free occurrences) :
    occurrence ∈ occurrences :=
  (reportedFrom_sublist free occurrences).subset member

theorem eq_of_start_eq {occurrences : List Occurrence} {first second : Occurrence}
    (increasing : occurrences.Pairwise fun a b => a.start < b.start)
    (isFirst : first ∈ occurrences) (isSecond : second ∈ occurrences)
    (same : first.start = second.start) : first = second := by
  obtain ⟨one, inside, rfl⟩ := List.getElem_of_mem isFirst
  obtain ⟨two, insideToo, rfl⟩ := List.getElem_of_mem isSecond
  have ordered := List.pairwise_iff_getElem.1 increasing
  rcases Nat.lt_trichotomy one two with less | rfl | greater
  · have apart := ordered one two inside insideToo less
    omega
  · rfl
  · have apart := ordered two one insideToo inside greater
    omega

/-- An occurrence is reported unless it starts before the bound or before the end of an occurrence
reported earlier. -/
theorem mem_reportedFrom_iff {free : Nat} {occurrence : Occurrence}
    {occurrences : List Occurrence}
    (increasing : occurrences.Pairwise fun first second => first.start < second.start) :
    occurrence ∈ reportedFrom free occurrences ↔
      occurrence ∈ occurrences ∧ free ≤ occurrence.start ∧
        ∀ earlier ∈ reportedFrom free occurrences, earlier.start < occurrence.start →
          earlier.stop ≤ occurrence.start := by
  induction occurrences generalizing free with
  | nil => simp [reportedFrom]
  | cons first rest ih =>
    obtain ⟨after, others⟩ := List.pairwise_cons.1 increasing
    rw [reportedFrom]
    split
    · rename_i before
      rw [ih others]
      constructor
      · rintro ⟨member, clear, apart⟩
        exact ⟨.tail _ member, clear, apart⟩
      · rintro ⟨member, clear, apart⟩
        rcases List.mem_cons.1 member with rfl | member
        · omega
        · exact ⟨member, clear, apart⟩
    · constructor
      · intro member
        rcases List.mem_cons.1 member with rfl | member
        · refine ⟨.head _, by omega, fun earlier isEarlier less => ?_⟩
          rcases List.mem_cons.1 isEarlier with rfl | isLater
          · omega
          · have later := after earlier (mem_of_mem_reportedFrom isLater)
            omega
        · obtain ⟨inside, clear, apart⟩ := (ih others).1 member
          have later := after occurrence inside
          refine ⟨.tail _ inside, by omega, fun earlier isEarlier less => ?_⟩
          rcases List.mem_cons.1 isEarlier with rfl | isEarlier
          · exact clear
          · exact apart earlier isEarlier less
      · rintro ⟨member, _, apart⟩
        rcases List.mem_cons.1 member with rfl | member
        · exact .head _
        · refine .tail _ ((ih others).2 ⟨member, ?_, fun earlier isEarlier => ?_⟩)
          · exact apart first (.head _) (after occurrence member)
          · exact apart earlier (.tail _ isEarlier)

theorem head_mem_reportedFrom {free : Nat} {first : Occurrence} {occurrences : List Occurrence}
    (clear : free ≤ first.start) (here : occurrences[0]? = some first) :
    first ∈ reportedFrom free occurrences := by
  cases occurrences with
  | nil => cases here
  | cons other rest =>
    cases here
    rw [reportedFrom, if_neg (Nat.not_lt.2 clear)]
    exact .head _

theorem reportedFrom_congr {free other : Nat} {occurrences : List Occurrence}
    (later : ∀ occurrence ∈ occurrences, free ≤ occurrence.start ∧ other ≤ occurrence.start) :
    reportedFrom free occurrences = reportedFrom other occurrences := by
  cases occurrences with
  | nil => rfl
  | cons first rest =>
    obtain ⟨less, lessToo⟩ := later first (.head _)
    rw [reportedFrom, reportedFrom, if_neg (Nat.not_lt.2 less), if_neg (Nat.not_lt.2 lessToo)]

theorem reportedFrom_of_disjoint {free : Nat} {occurrences : List Occurrence}
    (later : ∀ occurrence ∈ occurrences, free ≤ occurrence.start)
    (disjoint : occurrences.Pairwise fun first second => first.stop ≤ second.start) :
    reportedFrom free occurrences = occurrences := by
  induction occurrences generalizing free with
  | nil => rfl
  | cons first rest ih =>
    obtain ⟨apart, others⟩ := List.pairwise_cons.1 disjoint
    rw [reportedFrom, if_neg (Nat.not_lt.2 (later first (.head _))), ih apart others]

section Neighbours

variable {free : Nat} {previous next : Occurrence} {occurrences : List Occurrence}

/-- Each occurrence ends before the second one after it starts. -/
def Sparse (occurrences : List Occurrence) : Prop :=
  ∀ first ∈ occurrences, ∀ second ∈ occurrences, ∀ third ∈ occurrences,
    first.start < second.start → second.start < third.start → first.stop ≤ third.start

theorem Sparse.tail {first : Occurrence} {rest : List Occurrence}
    (sparse : Sparse (first :: rest)) : Sparse rest :=
  fun one isOne two isTwo three isThree =>
    sparse one (.tail _ isOne) two (.tail _ isTwo) three (.tail _ isThree)

theorem reportedFrom_pair {first second : Occurrence} {rest : List Occurrence}
    (increasing : (first :: second :: rest).Pairwise fun a b => a.start < b.start)
    (clear : free ≤ second.start) :
    second ∉ reportedFrom free (first :: second :: rest) ↔
      first ∈ reportedFrom free (first :: second :: rest) ∧ second.start < first.stop := by
  obtain ⟨after, others⟩ := List.pairwise_cons.1 increasing
  have less := after second (.head _)
  have notFirst : ∀ bound, first ∉ reportedFrom bound (second :: rest) := by
    intro bound member
    have later := after first (mem_of_mem_reportedFrom member)
    omega
  have notAgain : ∀ bound, second ∉ reportedFrom bound rest := by
    intro bound member
    have later := (List.pairwise_cons.1 others).1 second (mem_of_mem_reportedFrom member)
    omega
  have different : second ≠ first := by
    rintro rfl
    omega
  rw [reportedFrom]
  split
  · have kept : second ∈ reportedFrom free (second :: rest) := by
      rw [reportedFrom, if_neg (Nat.not_lt.2 clear)]
      exact .head _
    simp [kept, notFirst]
  · by_cases inside : second.start < first.stop
    · have dropped : second ∉ reportedFrom first.stop (second :: rest) := by
        rw [reportedFrom, if_pos inside]
        exact notAgain _
      simp [dropped, different, inside]
    · have kept : second ∈ reportedFrom first.stop (second :: rest) := by
        rw [reportedFrom, if_neg inside]
        exact .head _
      simp [kept, inside]

/-- An occurrence is left out exactly if it starts inside the one before it and that is reported. -/
theorem left_out_iff (increasing : occurrences.Pairwise fun a b => a.start < b.start)
    (sparse : Sparse occurrences) (clear : ∀ later ∈ occurrences.tail, free ≤ later.start)
    {index : Nat} (here : occurrences[index]? = some previous)
    (there : occurrences[index + 1]? = some next) :
    next ∉ reportedFrom free occurrences ↔
      previous ∈ reportedFrom free occurrences ∧ next.start < previous.stop := by
  -- going on, at most the first of the remaining occurrences may start before the bound
  induction occurrences generalizing free index with
  | nil => cases here
  | cons first rest ih =>
    cases index with
    | zero =>
      cases rest with
      | nil => cases there
      | cons second more =>
        cases here
        cases there
        exact reportedFrom_pair increasing (clear next (.head _))
    | succ index =>
      obtain ⟨after, others⟩ := List.pairwise_cons.1 increasing
      have isPrevious : previous ∈ rest := List.mem_of_getElem? here
      have isNext : next ∈ rest := List.mem_of_getElem? there
      have one : previous ≠ first := by
        rintro rfl
        exact absurd (after previous isPrevious) (Nat.lt_irrefl _)
      have two : next ≠ first := by
        rintro rfl
        exact absurd (after next isNext) (Nat.lt_irrefl _)
      rw [reportedFrom]
      split
      · exact ih others sparse.tail (fun later member => clear later (List.mem_of_mem_tail member))
          here there
      · have inner : next ∉ reportedFrom first.stop rest ↔
            previous ∈ reportedFrom first.stop rest ∧ next.start < previous.stop := by
          refine ih others sparse.tail (fun later member => ?_) here there
          cases rest with
          | nil => cases member
          | cons second more =>
            have isLater : later ∈ second :: more := .tail _ member
            exact sparse first (.head _) second (.tail _ (.head _)) later (.tail _ isLater)
              (after second (.head _)) ((List.pairwise_cons.1 others).1 later member)
        simp only [List.mem_cons, one, two, false_or]
        exact inner

theorem left_out_iff_overlaps {Overlaps : Occurrence → Occurrence → Prop}
    (increasing : occurrences.Pairwise fun a b => a.start < b.start) (sparse : Sparse occurrences)
    (overlaps : ∀ first ∈ occurrences, ∀ second ∈ occurrences, first.start < second.start →
      (second.start < first.stop ↔ Overlaps first second))
    {index : Nat} (here : occurrences[index]? = some previous)
    (there : occurrences[index + 1]? = some next) :
    next ∉ reported occurrences ↔ Overlaps previous next ∧ previous ∈ reported occurrences := by
  obtain ⟨before, rfl⟩ := List.getElem?_eq_some_iff.1 here
  obtain ⟨after, rfl⟩ := List.getElem?_eq_some_iff.1 there
  have less := List.pairwise_iff_getElem.1 increasing index (index + 1) before after
    (Nat.lt_succ_self index)
  rw [← overlaps _ (List.getElem_mem before) _ (List.getElem_mem after) less, and_comm]
  exact left_out_iff increasing sparse (fun _ _ => Nat.zero_le _) here there

theorem left_out_iff_exists {Overlaps : Occurrence → Occurrence → Prop}
    (increasing : occurrences.Pairwise fun a b => a.start < b.start) (sparse : Sparse occurrences)
    (overlaps : ∀ first ∈ occurrences, ∀ second ∈ occurrences, first.start < second.start →
      (second.start < first.stop ↔ Overlaps first second))
    (member : next ∈ occurrences) :
    next ∉ reported occurrences ↔ ∃ index previous, occurrences[index]? = some previous ∧
      occurrences[index + 1]? = some next ∧ previous ∈ reported occurrences ∧
      Overlaps previous next := by
  constructor
  · intro leftOut
    obtain ⟨place, inside, rfl⟩ := List.getElem_of_mem member
    cases place with
    | zero =>
      have first : occurrences[0]? = some occurrences[0] := List.getElem?_eq_getElem inside
      exact absurd (head_mem_reportedFrom (Nat.zero_le _) first) leftOut
    | succ index =>
      have here : occurrences[index]? = some occurrences[index] := List.getElem?_eq_getElem _
      have there : occurrences[index + 1]? = some occurrences[index + 1] :=
        List.getElem?_eq_getElem inside
      obtain ⟨overlap, kept⟩ :=
        (left_out_iff_overlaps increasing sparse overlaps here there).1 leftOut
      exact ⟨index, _, here, there, kept, overlap⟩
  · rintro ⟨index, previous, here, there, kept, overlap⟩
    exact (left_out_iff_overlaps increasing sparse overlaps here there).2 ⟨overlap, kept⟩

end Neighbours

end Occurrence

open Occurrence

namespace Shape

variable {shape : Shape} {text : List Char} {position : Nat}

def at? (shape : Shape) (text : List Char) (position : Nat) : Option Occurrence :=
  (shape.read? (text.drop position)).map fun found =>
    ⟨position, text.length - found.2.length, found.1⟩

def occurrencesFrom (shape : Shape) (text : List Char) (position : Nat) : List Occurrence :=
  (List.range' position (text.length - position)).filterMap (shape.at? text)

def occurrences (shape : Shape) (text : List Char) : List Occurrence :=
  shape.occurrencesFrom text 0

theorem at?_eq_some_iff {occurrence : Occurrence} :
    shape.at? text position = some occurrence ↔
      ∃ rest, shape.read? (text.drop position) = some (occurrence.run, rest) ∧
        occurrence.start = position ∧ occurrence.stop = text.length - rest.length := by
  rw [at?, Option.map_eq_some_iff]
  constructor
  · rintro ⟨⟨run, rest⟩, found, rfl⟩
    exact ⟨rest, found, rfl, rfl⟩
  · rintro ⟨rest, found, rfl, stop⟩
    exact ⟨(occurrence.run, rest), found, by rw [← stop]⟩

theorem start_of_at? {occurrence : Occurrence} (found : shape.at? text position = some occurrence) :
    occurrence.start = position := by
  obtain ⟨_, _, start, _⟩ := at?_eq_some_iff.1 found
  exact start

theorem suffix_of_read? {run rest : List Char} (found : shape.read? text = some (run, rest)) :
    rest <:+ text := by
  obtain ⟨body, lead, found⟩ := Option.bind_eq_some_iff.1 found
  simp only at found
  split at found
  · cases found
  · obtain ⟨_, tail, same⟩ := Option.map_eq_some_iff.1 found
    cases same
    have inner := (shape.tail.after?_suffix tail).trans (List.dropWhile_suffix shape.captured)
    exact inner.trans (shape.lead.after?_suffix lead)

theorem read?_nil (shape : Shape) : shape.read? [] = none := by
  cases found : shape.read? [] with
  | none => rfl
  | some pair => exact absurd (length_lt_of_read? found) (Nat.not_lt_zero _)

theorem lt_length_of_at? {occurrence : Occurrence}
    (found : shape.at? text position = some occurrence) : position < text.length := by
  apply Nat.lt_of_not_le
  intro outside
  rw [at?, List.drop_eq_nil_of_le outside, read?_nil] at found
  cases found

theorem mem_occurrencesFrom {occurrence : Occurrence} :
    occurrence ∈ shape.occurrencesFrom text position ↔
      position ≤ occurrence.start ∧ shape.at? text occurrence.start = some occurrence := by
  rw [occurrencesFrom, List.mem_filterMap]
  constructor
  · rintro ⟨start, within, found⟩
    obtain rfl := start_of_at? found
    exact ⟨(List.mem_range'_1.1 within).1, found⟩
  · rintro ⟨after, found⟩
    have inside := lt_length_of_at? found
    exact ⟨occurrence.start, List.mem_range'_1.2 ⟨after, by omega⟩, found⟩

theorem mem_occurrences {occurrence : Occurrence} :
    occurrence ∈ shape.occurrences text ↔ shape.at? text occurrence.start = some occurrence := by
  rw [occurrences, mem_occurrencesFrom]
  exact and_iff_right (Nat.zero_le _)

theorem occurrences_increasing (shape : Shape) (text : List Char) :
    (shape.occurrences text).Pairwise fun first second => first.start < second.start := by
  refine List.Pairwise.filterMap _ ?_ (List.pairwise_lt_range' _)
  intro first second less one here two there
  rw [start_of_at? here, start_of_at? there]
  exact less

theorem occurrencesFrom_of_lt (inside : position < text.length) :
    shape.occurrencesFrom text position =
      (shape.at? text position).toList ++ shape.occurrencesFrom text (position + 1) := by
  have count : text.length - position = (text.length - (position + 1)) + 1 := by omega
  rw [occurrencesFrom, count, List.range'_succ, List.filterMap_cons, ← occurrencesFrom]
  cases shape.at? text position <;> rfl

theorem reportedFrom_skip {free : Nat} (later : position ≤ free) :
    reportedFrom free (shape.occurrencesFrom text position) =
      reportedFrom free (shape.occurrencesFrom text free) := by
  induction gap : free - position generalizing position with
  | zero =>
    obtain rfl : position = free := by omega
    rfl
  | succ gap ih =>
    by_cases inside : position < text.length
    · have rest := @ih (position + 1) (by omega) (by omega)
      rw [occurrencesFrom_of_lt inside, ← rest]
      cases found : shape.at? text position with
      | none => rfl
      | some occurrence =>
        have before : occurrence.start < free := by
          rw [start_of_at? found]
          omega
        rw [Option.toList_some, List.singleton_append, reportedFrom, if_pos before]
    · have none : text.length - position = 0 := by omega
      have noneAfter : text.length - free = 0 := by omega
      rw [occurrencesFrom, occurrencesFrom, none, noneAfter]
      rfl

theorem captures_of_read? {run rest : List Char} (found : shape.read? text = some (run, rest)) :
    shape.captures text = run :: shape.captures rest := by
  cases text with
  | nil =>
    rw [read?_nil] at found
    cases found
  | cons c text =>
    rw [captures]
    split
    · rename_i other after here
      cases found.symm.trans here
      rfl
    · rename_i missing
      cases found.symm.trans missing

theorem captures_of_missing {c : Char} (missing : shape.read? (c :: text) = none) :
    shape.captures (c :: text) = shape.captures text := by
  rw [captures]
  split
  · rename_i run rest found
    cases missing.symm.trans found
  · rfl

theorem captures_drop (shape : Shape) (text : List Char) (position : Nat) :
    shape.captures (text.drop position) =
      (reportedFrom position (shape.occurrencesFrom text position)).map (·.run) := by
  -- each match leaves less text, so the induction is on what is left
  induction left : text.length - position using Nat.strongRecOn generalizing position with
  | ind left ih =>
    by_cases inside : position < text.length
    · have split : text.drop position = text[position] :: text.drop (position + 1) :=
        List.drop_eq_getElem_cons inside
      cases found : shape.read? (text.drop position) with
      | none =>
        have missing : shape.at? text position = none := by rw [at?, found, Option.map_none]
        rw [occurrencesFrom_of_lt inside, missing, Option.toList_none, List.nil_append]
        rw [split] at found ⊢
        rw [captures_of_missing found, ih _ (by omega) (position + 1) rfl]
        congr 1
        apply reportedFrom_congr
        intro occurrence member
        have after := (mem_occurrencesFrom.1 member).1
        omega
      | some pair =>
        obtain ⟨run, rest⟩ := pair
        have here : shape.at? text position = some ⟨position, text.length - rest.length, run⟩ := by
          rw [at?, found, Option.map_some]
        have shorter := length_lt_of_read? found
        rw [List.length_drop] at shorter
        have remains : rest = text.drop (text.length - rest.length) :=
          List.suffix_iff_eq_drop.1 ((suffix_of_read? found).trans (List.drop_suffix _ _))
        have ahead : position + 1 ≤ text.length - rest.length := by omega
        rw [captures_of_read? found, occurrencesFrom_of_lt inside, here, Option.toList_some,
          List.singleton_append, reportedFrom, if_neg (Nat.lt_irrefl _), List.map_cons]
        congr 1
        rw [reportedFrom_skip ahead]
        have below := ih (text.length - (text.length - rest.length)) (by omega)
          (text.length - rest.length) rfl
        rw [← remains] at below
        exact below
    · have none : text.length - position = 0 := by omega
      rw [List.drop_eq_nil_of_le (Nat.le_of_not_lt inside), captures, occurrencesFrom, none]
      rfl

theorem captures_eq_reported (shape : Shape) (text : List Char) :
    shape.captures text = (reported (shape.occurrences text)).map (·.run) :=
  captures_drop shape text 0

end Shape

end CodeInventory.Source
