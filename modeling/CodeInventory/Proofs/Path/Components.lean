import CodeInventory.Proofs.Path.Parents
import Mathlib.Data.List.TakeWhile

namespace CodeInventory.Path

open CodeInventory.Text

def leading (absolute : Bool) (first : Bytes) : Option Component :=
  if absolute then some .root
  else if first = dot then some .here
  else component? first

theorem components_of_segments {path : Path} {first : Bytes} {rest : List Bytes}
    (segments : segmentsOf path.bytes = first :: rest) :
    path.components = (leading path.isAbsolute first).toList ++ rest.filterMap component? := by
  rw [components, segments]
  rfl

theorem component?_idle {segment : Bytes} (idle : isIdle segment = true) :
    component? segment = none := if_pos idle

theorem filterMap_idle {segments : List Bytes}
    (idle : ∀ segment ∈ segments, isIdle segment = true) :
    segments.filterMap component? = [] :=
  List.filterMap_eq_nil_iff.2 fun segment member => component?_idle (idle segment member)

theorem component?_busy {segment : Bytes} (busy : isIdle segment = false) :
    ∃ component, component? segment = some component := by
  rw [component?, busy]
  by_cases up : segment = dots
  · exact ⟨.up, by simp [up]⟩
  · exact ⟨.name segment, by simp [up]⟩

/-- A path is absolute where its first segment is empty and not its only one. -/
theorem isAbsolute_iff_segments {path : Path} {first : Bytes} {rest : List Bytes}
    (segments : segmentsOf path.bytes = first :: rest) :
    path.isAbsolute = true ↔ first = [] ∧ rest ≠ [] := by
  obtain ⟨bytes⟩ := path
  cases bytes with
  | nil =>
    cases segments
    simp [isAbsolute]
  | cons b others =>
    rw [segmentsOf] at segments
    by_cases absolute : b = slash
    · rw [if_pos absolute] at segments
      cases segments
      simp [isAbsolute, absolute, segmentsOf_ne_nil]
    · obtain ⟨front, back, split⟩ := List.exists_cons_of_ne_nil (segmentsOf_ne_nil others)
      rw [if_neg absolute, split] at segments
      cases segments
      simp [isAbsolute, absolute]

theorem components_join {base : Path} (nonempty : base.bytes ≠ []) {name : Bytes}
    (valid : NameValid name) :
    (base.join ⟨name⟩).components = base.components ++ [.name name] := by
  obtain ⟨before, blank, segments, blanks, present, joined⟩ := segmentsOf_join nonempty valid
  obtain ⟨first, rest, rfl⟩ := List.exists_cons_of_ne_nil present
  have idle : blank.filterMap component? = [] := by
    apply filterMap_idle
    intro segment member
    rw [blanks segment member]
    rfl
  rw [List.cons_append] at segments joined
  rw [components_of_segments joined, components_of_segments segments,
    isAbsolute_join nonempty valid.not_absolute, List.filterMap_append, List.filterMap_append, idle]
  simp [valid.component]

theorem segmentsOf_ofSegments {segments : List Bytes} (nonempty : segments ≠ [])
    (noSlash : ∀ segment ∈ segments, slash ∉ segment) :
    segmentsOf (ofSegments segments) = segments := by
  induction segments with
  | nil => exact absurd rfl nonempty
  | cons first others ih =>
    obtain ⟨head, tail⟩ := List.forall_mem_cons.1 noSlash
    cases others with
    | nil => exact segmentsOf_of_no_slash head
    | cons second more =>
      have inner := ih (by simp) tail
      change segmentsOf (first ++ slash :: ofSegments (second :: more)) = _
      rw [segmentsOf_slash, segmentsOf_of_no_slash head, inner]
      rfl

theorem filterMap_dropWhile_idle (segments : List Bytes) :
    (segments.dropWhile isIdle).reverse.filterMap component? =
      segments.reverse.filterMap component? := by
  have idle : (segments.takeWhile isIdle).reverse.filterMap component? = [] := by
    apply filterMap_idle
    intro segment member
    exact List.mem_takeWhile_imp (List.mem_reverse.1 member)
  rw [← List.takeWhile_append_dropWhile (p := isIdle) (l := segments), List.reverse_append,
    List.filterMap_append, idle, List.append_nil, List.takeWhile_append_dropWhile]

theorem filterMap_of_dropWhile {rest : List Bytes} (none : rest.reverse.dropWhile isIdle = []) :
    rest.filterMap component? = [] := by
  have kept := filterMap_dropWhile_idle rest.reverse
  rw [none, List.reverse_reverse] at kept
  exact kept.symm

theorem segments_around_last {rest before : List Bytes} {last : Bytes}
    (dropped : rest.reverse.dropWhile isIdle = last :: before) :
    isIdle last = false ∧ rest.filterMap component? =
      before.reverse.filterMap component? ++ (component? last).toList := by
  refine ⟨?_, ?_⟩
  · have head := List.head?_dropWhile_not isIdle rest.reverse
    rw [dropped] at head
    simpa using head
  · have kept := filterMap_dropWhile_idle rest.reverse
    rw [dropped, List.reverse_reverse, List.reverse_cons, List.filterMap_append] at kept
    rw [← kept, List.filterMap_cons, List.filterMap_nil]
    cases component? last <;> rfl

theorem components_of_segment {segment : Bytes} (noSlash : slash ∉ segment) :
    components ⟨segment⟩ = (leading false segment).toList := by
  have alone : segmentsOf segment = [segment] := segmentsOf_of_no_slash noSlash
  have relative : isAbsolute ⟨segment⟩ = false := by
    rw [Bool.eq_false_iff, Ne, isAbsolute_iff_segments alone]
    simp
  rw [@components_of_segments ⟨segment⟩ _ _ alone, relative]
  simp

theorem kept_subset {rest before : List Bytes} {last : Bytes}
    (dropped : rest.reverse.dropWhile isIdle = last :: before) :
    (before.dropWhile isIdle).reverse ⊆ rest := by
  intro segment member
  have inBefore := (List.dropWhile_suffix isIdle).subset (List.mem_reverse.1 member)
  have inRest : segment ∈ rest.reverse := by
    apply (List.dropWhile_suffix isIdle).subset
    rw [dropped]
    exact List.mem_cons_of_mem _ inBefore
  exact List.mem_reverse.1 inRest

theorem components_ofSegments {path : Path} {first : Bytes} {rest kept : List Bytes}
    (split : segmentsOf path.bytes = first :: rest) (subset : kept ⊆ rest) (present : kept ≠ []) :
    components ⟨ofSegments (first :: kept)⟩ =
      (leading path.isAbsolute first).toList ++ kept.filterMap component? := by
  have inside : ∀ segment ∈ first :: kept, slash ∉ segment := by
    intro segment member
    apply @no_slash_in_segments path.bytes
    rw [split]
    exact List.cons_subset_cons first subset member
  have more : rest ≠ [] := by
    rintro rfl
    exact present (List.subset_nil.1 subset)
  have segments := segmentsOf_ofSegments (by simp) inside
  have same : isAbsolute ⟨ofSegments (first :: kept)⟩ = path.isAbsolute := by
    rw [Bool.eq_iff_iff, isAbsolute_iff_segments split, isAbsolute_iff_segments segments]
    simp [more, present]
  rw [@components_of_segments ⟨_⟩ _ _ segments, same]

theorem components_parent {path parent : Path} (up : path.parent? = some parent) :
    parent.components = path.components.dropLast := by
  unfold parent? at up
  split at up
  · cases up
  · rename_i first rest split
    rw [components_of_segments split]
    split at up
    · -- a single component
      rename_i idle
      split at up
      · cases up
      · cases up
        rw [filterMap_of_dropWhile idle, List.append_nil]
        cases leading path.isAbsolute first <;> rfl
    · rename_i last before dropped
      obtain ⟨busy, parts⟩ := segments_around_last dropped
      obtain ⟨component, named⟩ := component?_busy busy
      have unchanged := filterMap_dropWhile_idle before
      rw [parts, named, Option.toList_some, ← List.append_assoc, List.dropLast_concat, ← unchanged]
      split at up
      · -- below the first segment, or below the root
        rename_i none
        cases up
        rw [none, List.filterMap_nil, List.append_nil]
        cases path.isAbsolute with
        | true => rfl
        | false =>
          exact components_of_segment (no_slash_in_segments (split ▸ List.mem_cons_self ..))
      · rename_i present
        cases up
        exact components_ofSegments split (kept_subset dropped) present

theorem components_of_fileName? {path : Path} {name : Bytes} (named : path.fileName? = some name) :
    path.components = path.components.dropLast ++ [.name name] := by
  unfold fileName? at named
  split at named
  · rename_i last
    cases named
    obtain ⟨before, same⟩ := List.getLast?_eq_some_iff.1 last
    rw [same, List.dropLast_concat]
  · cases named

theorem exists_parent {path : Path} {name : Bytes} (named : path.fileName? = some name) :
    ∃ parent, path.parent? = some parent := by
  cases up : path.parent? with
  | some parent => exact ⟨parent, rfl⟩
  | none =>
    have ends := components_of_fileName? named
    have last : Component.name name ∈ path.components := by
      rw [ends]
      simp
    unfold parent? at up
    split at up
    · rename_i empty
      exact absurd empty (segmentsOf_ne_nil _)
    · rename_i first rest split
      rw [components_of_segments split] at last
      split at up
      · rename_i idle
        split at up
        · rename_i top
          rw [filterMap_of_dropWhile idle, List.append_nil] at last
          cases rooted : path.isAbsolute with
          | true => simp [rooted, leading] at last
          | false =>
            have blank : first = [] := by simpa [rooted] using top
            simp [rooted, blank, leading, component?, isIdle, dot] at last
        · cases up
      · split at up <;> cases up

theorem componentsBelow?_eq_some_iff {base path below : List Component} :
    componentsBelow? base path = some below ↔ path = base ++ below := by
  induction base generalizing path with
  | nil => simp [componentsBelow?]
  | cons first rest ih =>
    cases path with
    | nil => simp [componentsBelow?]
    | cons component others =>
      rw [componentsBelow?, List.cons_append, List.cons.injEq]
      by_cases same : first = component
      · simp [same, ih]
      · simp [same, Ne.symm same]

end CodeInventory.Path
