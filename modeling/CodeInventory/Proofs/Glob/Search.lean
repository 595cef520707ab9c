import CodeInventory.Proofs.Glob.Cuts
import CodeInventory.Proofs.Glob.Notation

namespace CodeInventory.Glob

section Ends

/-- The ends of a text at which a search goes on: perhaps the whole text, every end after a
character that `stops`, and the empty one. -/
inductive EndOf (stops : Char → Bool) : (here : Bool) → List Char → List Char → Prop
  | whole {text : List Char} : EndOf stops true text text
  | empty {here : Bool} : EndOf stops here [] []
  | later {here : Bool} {c : Char} {text last : List Char}
    (inner : EndOf stops (stops c) text last) : EndOf stops here (c :: text) last

variable {stops : Char → Bool} {here : Bool} {c : Char} {text last : List Char}

theorem endOf_nil_iff : EndOf stops here [] last ↔ last = [] := by
  constructor
  · intro ends
    cases ends <;> rfl
  · rintro rfl
    exact .empty

theorem endOf_cons_iff : EndOf stops here (c :: text) last ↔
    here = true ∧ last = c :: text ∨ EndOf stops (stops c) text last := by
  constructor
  · intro ends
    cases ends with
    | whole => exact .inl ⟨rfl, rfl⟩
    | later inner => exact .inr inner
  · rintro (⟨rfl, rfl⟩ | inner)
    · exact .whole
    · exact .later inner

theorem EndOf.suffix (ends : EndOf stops here text last) : last <:+ text := by
  induction ends with
  | whole => exact List.suffix_refl _
  | empty => exact List.suffix_refl _
  | later inner ih => exact ih.trans (List.suffix_cons ..)

theorem EndOf.trans {middle : List Char} (outer : EndOf stops here text middle)
    (inner : EndOf stops true middle last) : EndOf stops here text last := by
  induction outer with
  | whole => exact inner
  | empty => rw [endOf_nil_iff.1 inner]; exact .empty
  | later _ ih => exact .later (ih inner)

theorem endOf_of_suffix (suffix : last <:+ text) : EndOf (fun _ => true) true text last := by
  induction text with
  | nil =>
    rw [List.suffix_nil.1 suffix]
    exact .whole
  | cons c text ih =>
    rcases List.suffix_cons_iff.1 suffix with rfl | inner
    · exact .whole
    · exact .later (ih inner)

theorem endOf_of_stop (suffix : c :: last <:+ text) (stop : stops c = true) :
    EndOf stops here text last := by
  induction text generalizing here with
  | nil => simp at suffix
  | cons d text ih =>
    rcases List.suffix_cons_iff.1 suffix with same | inner
    · cases same
      refine .later ?_
      rw [stop]
      exact .whole
    · exact .later (ih inner)

theorem endOf_empty (text : List Char) : EndOf stops here text [] := by
  induction text generalizing here with
  | nil => exact .empty
  | cons c text ih => exact .later ih

theorem EndOf.cut (ends : EndOf stops here text last) :
    ∃ piece, piece ++ last = text ∧
      (piece = [] ∧ here = true ∨ (∃ front c, piece = front ++ [c] ∧ stops c = true) ∨
        last = []) := by
  induction ends with
  | whole => exact ⟨[], rfl, .inl ⟨rfl, rfl⟩⟩
  | empty => exact ⟨[], rfl, .inr (.inr rfl)⟩
  | @later _ c _ _ inner ih =>
    obtain ⟨piece, rfl, ⟨rfl, stop⟩ | ⟨front, d, rfl, stop⟩ | rfl⟩ := ih
    · exact ⟨[c], rfl, .inr (.inl ⟨[], c, rfl, stop⟩)⟩
    · exact ⟨c :: (front ++ [d]), rfl, .inr (.inl ⟨c :: front, d, rfl, stop⟩)⟩
    · exact ⟨c :: piece, rfl, .inr (.inr rfl)⟩

theorem endOf_sequence_iff : EndOf (fun _ => true) true text last ↔
    ∃ piece, piece ++ last = text ∧ Fits .anySequence piece last := by
  constructor
  · intro ends
    obtain ⟨piece, split, _⟩ := ends.cut
    exact ⟨piece, split, .anySequence⟩
  · rintro ⟨piece, rfl, _⟩
    exact endOf_of_suffix (List.suffix_append ..)

theorem endOf_components_iff : EndOf (· == '/') true text last ↔
    ∃ piece, piece ++ last = text ∧ Fits .anyComponents piece last := by
  constructor
  · intro ends
    obtain ⟨piece, split, ⟨rfl, _⟩ | ⟨front, c, rfl, stop⟩ | rfl⟩ := ends.cut
    · exact ⟨[], split, .noComponents⟩
    · obtain rfl : c = '/' := by simpa using stop
      exact ⟨_, split, .components⟩
    · exact ⟨piece, split, .allComponents⟩
  · rintro ⟨piece, rfl, fits⟩
    cases fits with
    | noComponents => exact .whole
    | components =>
      refine endOf_of_stop (c := '/') ?_ rfl
      rw [List.append_assoc]
      exact List.suffix_append ..
    | allComponents => exact endOf_empty _

/-- What is tried at the ends of a text in turn is found if it is anywhere, provided that nothing is
given up too early. -/
theorem tryEnds_found_iff {rest : List Char → Outcome}
    (prunes : ∀ text last, rest text = .exhausted → EndOf stops true text last →
      rest last ≠ .found) :
    tryEnds rest stops here text = .found ↔
      ∃ last, EndOf stops here text last ∧ rest last = .found := by
  induction text generalizing here with
  | nil => simp [tryEnds, endOf_nil_iff]
  | cons c text ih =>
    simp only [endOf_cons_iff, tryEnds]
    cases here with
    | false => simp [ih]
    | true =>
      cases answer : rest (c :: text) with
      | found => simp [answer]
      | mismatch => simp [answer, ih, or_and_right, exists_or]
      | exhausted =>
        simp only [if_true, reduceCtorEq, true_and, false_iff, not_exists, not_and]
        intro last ends
        exact prunes _ last answer (endOf_cons_iff.2 (by simpa using ends))

end Ends

section Search

def stopsAt : (starts : Bool) → Char → Bool
  | true, c => c == '/'
  | false, _ => true

theorem EndOf.coarser {starts coarse : Bool} {text last : List Char}
    (ends : EndOf (stopsAt starts) true text last) (fewer : coarse = true → starts = true) :
    EndOf (stopsAt coarse) true text last := by
  cases coarse with
  | true =>
    rw [fewer rfl] at ends
    exact ends
  | false => exact endOf_of_suffix ends.suffix

/-- Searching for the pattern finds what there is, and is given up only if there is nothing at any
end that matters. That these are enough rests on where `**` may stand: it is tried only where
components start, but it is also written only there. -/
structure Exact (starts : Bool) (pattern : Pattern) : Prop where
  found_iff : ∀ text, search pattern text = .found ↔ Cuts pattern text
  prunes : ∀ text last, search pattern text = .exhausted →
    EndOf (stopsAt starts) true text last → ¬ Cuts pattern last

variable {starts inner : Bool} {pattern : Pattern} {element : Element}

theorem exact_nil (starts : Bool) : Exact starts [] := by
  constructor
  · intro text
    cases text with
    | nil => exact ⟨fun _ => .nil, fun _ => rfl⟩
    | cons c text =>
      simp only [search, reduceCtorEq, false_iff]
      intro cuts
      cases cuts
  · intro text last answer
    cases text <;> cases answer

theorem search_single (single : element.IsSingle) (pattern : Pattern) (text : List Char) :
    search (element :: pattern) text =
      match text with
      | [] => .exhausted
      | c :: rest => if element.accepts c then search pattern rest else .mismatch := by
  cases text with
  | nil =>
    rw [search]
    · exact single.1
    · exact single.2
  | cons c rest =>
    rw [search]
    · exact single.1
    · exact single.2

theorem Exact.single (rest : Exact inner pattern) (single : element.IsSingle)
    (slash : ∀ c, element.accepts c = true → inner = true → c = '/') :
    Exact starts (element :: pattern) := by
  constructor
  · intro text
    rw [search_single single, cuts_single_iff single]
    cases text with
    | nil => simp
    | cons c text =>
      by_cases accepted : element.accepts c = true
      · simp [accepted, rest.found_iff]
      · simp [accepted]
  · intro text last answer ends cuts
    obtain ⟨c, after, rfl, accepted, others⟩ := (cuts_single_iff single).1 cuts
    rw [search_single single] at answer
    cases text with
    | nil => cases endOf_nil_iff.1 ends
    | cons d text =>
      simp only at answer
      split at answer
      · refine rest.prunes text after answer ?_ others
        rcases List.suffix_cons_iff.1 ends.suffix with same | later
        · cases same
          exact .whole
        · -- What follows a slash starts a component; elsewhere every end counts.
          refine endOf_of_stop later ?_
          cases inner with
          | true => simp [slash c accepted rfl, stopsAt]
          | false => rfl
      · cases answer

theorem Exact.sequence (rest : Exact inner pattern)
    (tries : ∀ text, search (element :: pattern) text =
      tryEnds (search pattern) (stopsAt inner) true text)
    (ends_iff : ∀ text last, EndOf (stopsAt inner) true text last ↔
      ∃ piece, piece ++ last = text ∧ Fits element piece last)
    (fewer : inner = true → starts = true) : Exact starts (element :: pattern) := by
  have prunes : ∀ text last, search pattern text = .exhausted →
      EndOf (stopsAt inner) true text last → search pattern last ≠ .found := by
    intro text last answer ends found
    exact rest.prunes text last answer ends ((rest.found_iff last).1 found)
  have cuts_iff : ∀ text, Cuts (element :: pattern) text ↔
      ∃ last, EndOf (stopsAt inner) true text last ∧ Cuts pattern last := by
    intro text
    simp only [cuts_cons_iff, ends_iff]
    constructor
    · rintro ⟨piece, after, split, fits, others⟩
      exact ⟨after, ⟨piece, split, fits⟩, others⟩
    · rintro ⟨after, ⟨piece, split, fits⟩, others⟩
      exact ⟨piece, after, split, fits, others⟩
  have found_iff : ∀ text, search (element :: pattern) text = .found ↔
      Cuts (element :: pattern) text := by
    intro text
    simp only [tries, tryEnds_found_iff prunes, cuts_iff, rest.found_iff]
  refine ⟨found_iff, ?_⟩
  intro text last answer ends cuts
  -- A cut at an end is a cut of the whole text, with a longer piece in front.
  obtain ⟨after, within, others⟩ := (cuts_iff last).1 cuts
  have whole := (cuts_iff text).2 ⟨after, (ends.coarser fewer).trans within, others⟩
  rw [(found_iff text).2 whole] at answer
  cases answer

theorem Spells.exact {text : List Char} (spelled : Spells starts text pattern) :
    Exact starts pattern := by
  induction spelled with
  | nil => exact exact_nil _
  | @literal _ c _ _ plain rest ih =>
    refine ih.single ⟨by simp, by simp⟩ ?_
    intro d accepted slash
    obtain rfl : c = d := by simpa [Element.accepts] using accepted
    simpa using slash
  | anyChar rest ih => exact ih.single ⟨by simp, by simp⟩ (by simp)
  | anySequence alone rest ih =>
    exact ih.sequence (fun _ => rfl) (fun _ _ => endOf_sequence_iff) (by simp)
  | lastComponents =>
    exact (exact_nil true).sequence (fun _ => rfl) (fun _ _ => endOf_components_iff) fun _ => rfl
  | components rest ih =>
    exact ih.sequence (fun _ => rfl) (fun _ _ => endOf_components_iff) fun _ => rfl
  | inside plain closed lists rest ih => exact ih.single ⟨by simp, by simp⟩ (by simp)
  | outside closed lists rest ih => exact ih.single ⟨by simp, by simp⟩ (by simp)

theorem accepts_iff {text : String} {pattern : Pattern} (parsed : parse text = .ok pattern)
    (name : String) : pattern.accepts name = true ↔ Cuts pattern name.toList := by
  rw [Pattern.accepts, decide_eq_true_eq]
  exact (parse_eq_ok_iff.1 parsed).exact.found_iff name.toList

end Search

end CodeInventory.Glob
