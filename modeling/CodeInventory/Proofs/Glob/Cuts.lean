import Mathlib
import CodeInventory.Glob.Match

namespace CodeInventory.Glob

def ClassItem.Lists : ClassItem → Char → Prop
  | single c, d => d = c
  | range low high, d => low ≤ d ∧ d ≤ high

/-- A piece of a text that an element stands for, and the text after it. -/
inductive Fits : Element → (piece after : List Char) → Prop
  | literal {c : Char} {after : List Char} : Fits (.literal c) [c] after
  | anyChar {c : Char} {after : List Char} : Fits .anyChar [c] after
  | inside {items : List ClassItem} {c : Char} {after : List Char}
    (listed : ∃ item ∈ items, item.Lists c) : Fits (.inside items) [c] after
  | outside {items : List ClassItem} {c : Char} {after : List Char}
    (unlisted : ¬ ∃ item ∈ items, item.Lists c) : Fits (.outside items) [c] after
  | anySequence {piece after : List Char} : Fits .anySequence piece after
  | noComponents {after : List Char} : Fits .anyComponents [] after
  | components {piece after : List Char} : Fits .anyComponents (piece ++ ['/']) after
  | allComponents {piece : List Char} : Fits .anyComponents piece []

inductive Cuts : Pattern → List Char → Prop
  | nil : Cuts [] []
  | cons {element : Element} {rest : Pattern} {piece after : List Char}
    (fits : Fits element piece after) (others : Cuts rest after) :
    Cuts (element :: rest) (piece ++ after)

def Element.takes : Element → (piece after : List Char) → Bool
  | .anySequence, _, _ => true
  | .anyComponents, piece, after => piece.getLast?.all (· == '/') || after.isEmpty
  | element, [c], _ => element.accepts c
  | _, _, _ => false

def searchAll : Pattern → List Char → Bool
  | [], text => text.isEmpty
  | element :: rest, text =>
    (text.inits.zip text.tails).any fun cut => element.takes cut.1 cut.2 && searchAll rest cut.2

theorem ClassItem.contains_iff {item : ClassItem} {c : Char} :
    item.contains c = true ↔ item.Lists c := by
  cases item with
  | single d =>
    simp only [contains, Lists, beq_iff_eq]
    exact eq_comm
  | range low high => simp [contains, Lists]

theorem any_contains_iff {items : List ClassItem} {c : Char} :
    items.any (·.contains c) = true ↔ ∃ item ∈ items, item.Lists c := by
  simp only [List.any_eq_true, ClassItem.contains_iff]

def Element.IsSingle (element : Element) : Prop :=
  element ≠ .anySequence ∧ element ≠ .anyComponents

theorem fits_single_iff {element : Element} (single : element.IsSingle) {piece after : List Char} :
    Fits element piece after ↔ ∃ c, piece = [c] ∧ element.accepts c = true := by
  constructor
  · intro fits
    cases fits with
    | literal => exact ⟨_, rfl, by simp [Element.accepts]⟩
    | anyChar => exact ⟨_, rfl, rfl⟩
    | inside listed => exact ⟨_, rfl, any_contains_iff.2 listed⟩
    | outside unlisted =>
      exact ⟨_, rfl, by simpa [Element.accepts] using mt any_contains_iff.1 unlisted⟩
    | anySequence => exact absurd rfl single.1
    | noComponents => exact absurd rfl single.2
    | components => exact absurd rfl single.2
    | allComponents => exact absurd rfl single.2
  · rintro ⟨c, rfl, accepted⟩
    cases element with
    | literal d =>
      obtain rfl : d = c := by simpa [Element.accepts] using accepted
      exact .literal
    | anyChar => exact .anyChar
    | inside items => exact .inside (any_contains_iff.1 accepted)
    | outside items =>
      refine .outside (mt any_contains_iff.2 ?_)
      simpa [Element.accepts] using accepted
    | anySequence => exact absurd rfl single.1
    | anyComponents => exact absurd rfl single.2

theorem fits_components_iff {piece after : List Char} :
    Fits .anyComponents piece after ↔ piece.getLast?.all (· == '/') = true ∨ after = [] := by
  constructor
  · intro fits
    cases fits with
    | noComponents => exact .inl rfl
    | components => exact .inl (by simp)
    | allComponents => exact .inr rfl
  · rintro (stops | rfl)
    · rcases List.eq_nil_or_concat' piece with rfl | ⟨front, last, rfl⟩
      · exact .noComponents
      · obtain rfl : last = '/' := by simpa using stops
        exact .components
    · exact .allComponents

theorem Element.takes_single {element : Element} (single : element.IsSingle)
    {piece after : List Char} :
    element.takes piece after = true ↔ ∃ c, piece = [c] ∧ element.accepts c = true := by
  unfold takes
  split
  · exact absurd rfl single.1
  · exact absurd rfl single.2
  · simp
  · rename_i other
    simp only [Bool.false_eq_true, false_iff]
    rintro ⟨c, rfl, _⟩
    exact other c rfl

theorem Element.takes_iff {element : Element} {piece after : List Char} :
    element.takes piece after = true ↔ Fits element piece after := by
  by_cases sequence : element = .anySequence
  · subst sequence
    exact ⟨fun _ => .anySequence, fun _ => rfl⟩
  · by_cases components : element = .anyComponents
    · subst components
      simp [takes, fits_components_iff]
    · have single : element.IsSingle := ⟨sequence, components⟩
      rw [fits_single_iff single, takes_single single]

theorem cuts_cons_iff {element : Element} {rest : Pattern} {text : List Char} :
    Cuts (element :: rest) text ↔
      ∃ piece after, piece ++ after = text ∧ Fits element piece after ∧ Cuts rest after := by
  constructor
  · intro cuts
    cases cuts with
    | cons fits others => exact ⟨_, _, rfl, fits, others⟩
  · rintro ⟨piece, after, rfl, fits, others⟩
    exact .cons fits others

theorem searchAll_iff {pattern : Pattern} {text : List Char} :
    searchAll pattern text = true ↔ Cuts pattern text := by
  induction pattern generalizing text with
  | nil =>
    rw [searchAll, List.isEmpty_iff]
    constructor
    · rintro rfl
      exact .nil
    · intro cuts
      cases cuts
      rfl
  | cons element rest ih =>
    rw [searchAll, List.any_eq_true, cuts_cons_iff]
    simp only [Prod.exists, List.mem_zip_inits_tails, Bool.and_eq_true, Element.takes_iff, ih]

theorem cuts_single_iff {element : Element} {pattern : Pattern} (single : element.IsSingle)
    {text : List Char} :
    Cuts (element :: pattern) text ↔
      ∃ c rest, text = c :: rest ∧ element.accepts c = true ∧ Cuts pattern rest := by
  rw [cuts_cons_iff]
  constructor
  · rintro ⟨piece, after, rfl, fits, others⟩
    obtain ⟨c, rfl, accepted⟩ := (fits_single_iff single).1 fits
    exact ⟨c, after, rfl, accepted, others⟩
  · rintro ⟨c, rest, rfl, accepted, others⟩
    exact ⟨[c], rest, rfl, (fits_single_iff single).2 ⟨c, rfl, accepted⟩, others⟩

theorem cuts_literals_iff {suffix text : List Char} :
    Cuts (suffix.map .literal) text ↔ text = suffix := by
  induction suffix generalizing text with
  | nil =>
    rw [List.map_nil, ← searchAll_iff, searchAll, List.isEmpty_iff]
  | cons c others ih =>
    have single : (Element.literal c).IsSingle := ⟨nofun, nofun⟩
    rw [List.map_cons, cuts_single_iff single]
    simp only [Element.accepts, beq_iff_eq, ih]
    constructor
    · rintro ⟨d, rest, rfl, rfl, rfl⟩
      rfl
    · rintro rfl
      exact ⟨c, others, rfl, rfl, rfl⟩

theorem cuts_ending_iff {suffix text : List Char} :
    Cuts (.anySequence :: suffix.map .literal) text ↔ suffix <:+ text := by
  rw [cuts_cons_iff]
  constructor
  · rintro ⟨piece, after, rfl, _, literals⟩
    rw [cuts_literals_iff.1 literals]
    exact List.suffix_append ..
  · rintro ⟨front, rfl⟩
    exact ⟨front, suffix, rfl, .anySequence, cuts_literals_iff.2 rfl⟩

end CodeInventory.Glob
