import Mathlib
import CodeInventory.Glob.Parser

namespace CodeInventory.Glob

inductive Itemizes : List Char → List ClassItem → Prop
  | nil : Itemizes [] []
  | range {low high : Char} {rest : List Char} {items : List ClassItem}
    (others : Itemizes rest items) :
    Itemizes (low :: '-' :: high :: rest) (.range low high :: items)
  | single {c : Char} {rest : List Char} {items : List ClassItem}
    (alone : ∀ high more, rest ≠ '-' :: high :: more) (others : Itemizes rest items) :
    Itemizes (c :: rest) (.single c :: items)

def Plain (c : Char) : Prop := c ≠ '?' ∧ c ≠ '*' ∧ c ≠ '['

/-- The notation of a pattern. `fresh` says that a component starts here; only there `**` may stand,
and it takes the slash after it. The first character of a class never closes it. -/
inductive Spells : (fresh : Bool) → List Char → Pattern → Prop
  | nil {fresh : Bool} : Spells fresh [] []
  | literal {fresh : Bool} {c : Char} {text : List Char} {pattern : Pattern}
    (plain : Plain c) (rest : Spells (c == '/') text pattern) :
    Spells fresh (c :: text) (.literal c :: pattern)
  | anyChar {fresh : Bool} {text : List Char} {pattern : Pattern}
    (rest : Spells false text pattern) : Spells fresh ('?' :: text) (.anyChar :: pattern)
  | anySequence {fresh : Bool} {text : List Char} {pattern : Pattern}
    (alone : text.head? ≠ some '*') (rest : Spells false text pattern) :
    Spells fresh ('*' :: text) (.anySequence :: pattern)
  | lastComponents : Spells true ['*', '*'] [.anyComponents]
  | components {text : List Char} {pattern : Pattern} (rest : Spells true text pattern) :
    Spells true ('*' :: '*' :: '/' :: text) (.anyComponents :: pattern)
  | inside {fresh : Bool} {first : Char} {body text : List Char} {items : List ClassItem}
    {pattern : Pattern} (plain : first ≠ '!') (closed : ']' ∉ body)
    (lists : Itemizes (first :: body) items) (rest : Spells false text pattern) :
    Spells fresh ('[' :: first :: (body ++ ']' :: text)) (.inside items :: pattern)
  | outside {fresh : Bool} {first : Char} {body text : List Char} {items : List ClassItem}
    {pattern : Pattern} (closed : ']' ∉ body) (lists : Itemizes (first :: body) items)
    (rest : Spells false text pattern) :
    Spells fresh ('[' :: '!' :: first :: (body ++ ']' :: text)) (.outside items :: pattern)

theorem itemizes_classItems (body : List Char) : Itemizes body (classItems body) := by
  fun_induction classItems body with
  | case1 low high rest ih => exact .range ih
  | case2 c rest alone ih => exact .single alone ih
  | case3 => exact .nil

theorem Itemizes.eq_classItems {body : List Char} {items : List ClassItem}
    (lists : Itemizes body items) : items = classItems body := by
  induction lists with
  | nil => rfl
  | range others ih => rw [classItems, ih]
  | single alone others ih =>
    rw [classItems, ih]
    exact alone

theorem classBody?_closed {first : Char} {body rest : List Char} (closed : ']' ∉ body) :
    classBody? (first :: (body ++ ']' :: rest)) = some (first :: body, rest) := by
  have plain : ∀ c ∈ body, decide (c ≠ ']') = true := by
    intro c member
    exact decide_eq_true fun same => closed (same ▸ member)
  simp only [classBody?, List.takeWhile_append_of_pos plain, List.dropWhile_append_of_pos plain]
  simp

theorem closed_of_classBody? {text body rest : List Char}
    (found : classBody? text = some (body, rest)) :
    ∃ first others, body = first :: others ∧ ']' ∉ others ∧
      text = first :: (others ++ ']' :: rest) := by
  cases text with
  | nil => cases found
  | cons first text =>
    simp only [classBody?] at found
    split at found
    · cases found
    · rename_i bracket after left
      cases found
      have closing : bracket = ']' := by
        have stop := List.head?_dropWhile_not (fun c => decide (c ≠ ']')) text
        rw [left] at stop
        simpa using stop
      subst closing
      refine ⟨first, _, rfl, ?_, ?_⟩
      · intro member
        simpa using List.mem_takeWhile_imp member
      · rw [← left, List.takeWhile_append_dropWhile]

theorem class?_outside (text : List Char) : class? ('!' :: text) =
    (classBody? text).map fun found => (.outside (classItems found.1), found.2) := rfl

theorem class?_inside {text : List Char} (plain : text.head? ≠ some '!') : class? text =
    (classBody? text).map fun found => (.inside (classItems found.1), found.2) := by
  unfold class?
  split
  · simp at plain
  · rfl

theorem map_eq_ok_iff {α β ε : Type} {f : α → β} {first : Except ε α} {b : β} :
    first.map f = .ok b ↔ ∃ a, first = .ok a ∧ f a = b := by
  cases first <;> simp [Except.map]

def fresh (before : Option Char) : Bool := before.all (· = '/')

theorem spells_class {before : Option Char} {text rest : List Char} {element : Element}
    {pattern : Pattern} (found : class? text = some (element, rest))
    (spelled : Spells false rest pattern) :
    Spells (fresh before) ('[' :: text) (element :: pattern) := by
  by_cases negated : text.head? = some '!'
  · obtain ⟨text, rfl⟩ : ∃ others, text = '!' :: others := by
      cases text <;> simp_all
    rw [class?_outside] at found
    obtain ⟨⟨body, after⟩, inner, same⟩ := Option.map_eq_some_iff.1 found
    obtain ⟨first, others, rfl, closed, rfl⟩ := closed_of_classBody? inner
    cases same
    exact .outside closed (itemizes_classItems _) spelled
  · rw [class?_inside negated] at found
    obtain ⟨⟨body, after⟩, inner, same⟩ := Option.map_eq_some_iff.1 found
    obtain ⟨first, others, rfl, closed, rfl⟩ := closed_of_classBody? inner
    cases same
    exact .inside (by simpa using negated) closed (itemizes_classItems _) spelled

theorem spells_of_parseFrom {position : Nat} {before : Option Char} {text : List Char}
    {pattern : Pattern} (parsed : parseFrom position before text = .ok pattern) :
    Spells (fresh before) text pattern := by
  fun_induction parseFrom position before text generalizing pattern with
  | case1 =>
    cases parsed
    exact .nil
  | case2 position before text ih =>
    obtain ⟨rest, read, rfl⟩ := map_eq_ok_iff.1 parsed
    exact .anyChar (ih read)
  | case3 => cases parsed
  | case4 position before starts =>
    cases parsed
    rw [show fresh before = true from starts]
    exact .lastComponents
  | case5 position before starts text _ ih =>
    obtain ⟨rest, read, rfl⟩ := map_eq_ok_iff.1 parsed
    rw [show fresh before = true from starts]
    exact .components (ih read)
  | case6 => cases parsed
  | case7 => cases parsed
  | case8 position before text _ alone ih =>
    obtain ⟨rest, read, rfl⟩ := map_eq_ok_iff.1 parsed
    refine .anySequence ?_ (ih read)
    intro another
    cases text with
    | nil => cases another
    | cons c others =>
      cases another
      exact alone others rfl
  | case9 => cases parsed
  | case10 position before text element after found ih =>
    obtain ⟨rest, read, rfl⟩ := map_eq_ok_iff.1 parsed
    exact spells_class found (ih read)
  | case11 position before c text noQuestion _ _ noStar noBracket ih =>
    obtain ⟨rest, read, rfl⟩ := map_eq_ok_iff.1 parsed
    exact .literal ⟨noQuestion, noStar, noBracket⟩ (ih read)

theorem parseFrom_class {position : Nat} {before : Option Char} {text rest : List Char}
    {element : Element} {pattern : Pattern} (found : class? text = some (element, rest))
    (read : ∀ position, parseFrom position (some ']') rest = .ok pattern) :
    parseFrom position before ('[' :: text) = .ok (element :: pattern) := by
  rw [parseFrom.eq_def]
  simp only
  split
  · rename_i missing
    rw [found] at missing
    cases missing
  · rename_i other after same
    rw [found] at same
    cases same
    rw [read]
    rfl

theorem parseFrom_of_spells {starts : Bool} {text : List Char} {pattern : Pattern}
    (spelled : Spells starts text pattern) (position : Nat) {before : Option Char}
    (here : fresh before = starts) : parseFrom position before text = .ok pattern := by
  induction spelled generalizing position before with
  | nil => rw [parseFrom]
  | @literal _ c text pattern plain rest ih =>
    rw [parseFrom, ih (position + 1) (by simp [fresh, beq_eq_decide])]
    · rfl
    · exact plain.1
    · exact fun _ star => absurd star plain.2.1
    · exact fun _ star => absurd star plain.2.1
    · exact plain.2.1
    · exact plain.2.2
  | anyChar rest ih =>
    rw [parseFrom, ih (position + 1) rfl]
    rfl
  | @anySequence _ text pattern alone rest ih =>
    rw [parseFrom, ih (position + 1) rfl]
    · rfl
    · rintro others rfl
      exact alone rfl
    · rintro others rfl
      exact alone rfl
  | lastComponents =>
    rw [parseFrom]
    exact if_pos here
  | components rest ih =>
    rw [parseFrom, ih (position + 3) rfl]
    exact if_pos here
  | inside plain closed lists rest ih =>
    refine parseFrom_class ?_ fun position => ih position rfl
    rw [class?_inside (by simpa using plain), classBody?_closed closed, lists.eq_classItems]
    rfl
  | outside closed lists rest ih =>
    refine parseFrom_class ?_ fun position => ih position rfl
    rw [class?_outside, classBody?_closed closed, lists.eq_classItems]
    rfl

theorem parse_eq_ok_iff {text : String} {pattern : Pattern} :
    parse text = .ok pattern ↔ Spells true text.toList pattern :=
  ⟨spells_of_parseFrom, fun spelled => parseFrom_of_spells spelled 0 rfl⟩

theorem spells_literals {suffix : List Char} (plain : ∀ c ∈ suffix, Plain c) (starts : Bool) :
    Spells starts suffix (suffix.map .literal) := by
  induction suffix generalizing starts with
  | nil => exact .nil
  | cons c others ih =>
    have rest : ∀ d ∈ others, Plain d := fun d member => plain d (List.mem_cons_of_mem _ member)
    exact .literal (plain c (List.mem_cons_self ..)) (ih rest _)

theorem spells_ending {suffix : List Char} (plain : ∀ c ∈ suffix, Plain c) :
    Spells true ('*' :: suffix) (.anySequence :: suffix.map .literal) := by
  refine .anySequence ?_ (spells_literals plain false)
  intro another
  exact (plain '*' (List.mem_of_mem_head? another)).2.1 rfl

/-- What a star and plain characters after it are read as. -/
def ending (suffix : String) : Pattern := .anySequence :: suffix.toList.map .literal

theorem parse_ending {suffix : String} (plain : ∀ c ∈ suffix.toList, Plain c) :
    parse ("*" ++ suffix) = .ok (ending suffix) := by
  rw [parse_eq_ok_iff]
  simpa [ending] using spells_ending plain

theorem parseAll_endings {suffixes : List String}
    (plain : ∀ suffix ∈ suffixes, ∀ c ∈ suffix.toList, Plain c) :
    parseAll (suffixes.map ("*" ++ ·)) = .ok (suffixes.map ending) := by
  induction suffixes with
  | nil => rfl
  | cons suffix rest ih =>
    obtain ⟨first, others⟩ := List.forall_mem_cons.1 plain
    have read := ih others
    rw [parseAll] at read
    rw [parseAll, List.map_cons, List.mapM_cons, parse_ending first, read]
    rfl

theorem parseAll_any {texts : List String} {patterns : List Pattern}
    (parsed : parseAll texts = .ok patterns) (test : Pattern → Bool) :
    patterns.any test = true ↔
      ∃ text ∈ texts, ∃ pattern, parse text = .ok pattern ∧ test pattern = true := by
  induction texts generalizing patterns with
  | nil =>
    cases parsed
    simp
  | cons text rest ih =>
    rw [parseAll, List.mapM_cons] at parsed
    cases head : parse text with
    | error error =>
      rw [head] at parsed
      cases parsed
    | ok pattern =>
      cases tail : parseAll rest with
      | error error =>
        rw [parseAll] at tail
        rw [head, tail] at parsed
        cases parsed
      | ok others =>
        have known := ih tail
        rw [parseAll] at tail
        rw [head, tail] at parsed
        cases parsed
        rw [List.any_cons, Bool.or_eq_true, known]
        simp [head]

end CodeInventory.Glob
