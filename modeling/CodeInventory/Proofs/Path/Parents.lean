import CodeInventory.Proofs.Path.Segments

namespace CodeInventory.Path

open CodeInventory.Text

/-- The path itself, and what is left of it when last components are taken away. -/
inductive OnTheWay (ancestor : Path) : Path → Prop where
  | arrived : OnTheWay ancestor ancestor
  | further {path parent : Path} (up : path.parent? = some parent)
      (above : OnTheWay ancestor parent) : OnTheWay ancestor path

theorem eq_nil_of_no_components {path : Path} (none : path.components = []) : path.bytes = [] := by
  obtain ⟨bytes⟩ := path
  cases bytes with
  | nil => rfl
  | cons b rest =>
    by_cases absolute : b = slash
    · subst absolute
      simp [components, isAbsolute, segmentsOf] at none
    · obtain ⟨first, others, split⟩ := List.exists_cons_of_ne_nil (segmentsOf_ne_nil rest)
      simp only [components, isAbsolute, segmentsOf, absolute, split, List.head?_cons,
        Option.some.injEq, decide_false, if_false, List.append_eq_nil_iff, Bool.false_eq_true,
        Option.toList_eq_nil_iff] at none
      obtain ⟨head, _⟩ := none
      split at head
      · cases head
      · rename_i notDot
        simp only [component?, isIdle, notDot] at head
        split at head
        · simp_all
        · split at head <;> cases head

theorem withoutFinalSlashes_of_closed {path : Path} (closed : path.bytes.getLast? ≠ some slash) :
    path.withoutFinalSlashes = path := by
  obtain ⟨bytes⟩ := path
  rcases List.eq_nil_or_concat bytes with rfl | ⟨front, last, rfl⟩
  · rfl
  · have different : last ≠ slash := by simpa using closed
    simp [withoutFinalSlashes, different]

theorem ofSegments_append {front : List Bytes} (nonempty : front ≠ []) (last : Bytes) :
    ofSegments (front ++ [last]) = ofSegments front ++ slash :: last := by
  induction front with
  | nil => exact absurd rfl nonempty
  | cons first others ih =>
    cases others with
    | nil => rfl
    | cons second more =>
      have inner := ih (by simp)
      change first ++ slash :: ofSegments (second :: more ++ [last]) =
        first ++ slash :: ofSegments (second :: more) ++ slash :: last
      rw [inner]
      simp

theorem getLast?_ne_slash {segment : Bytes} (noSlash : slash ∉ segment) :
    segment.getLast? ≠ some slash :=
  fun last => noSlash (List.mem_of_getLast? last)

theorem withoutFinalSlashes_parent {path parent : Path} (up : path.parent? = some parent) :
    parent.withoutFinalSlashes = parent := by
  have noSlash : ∀ segment ∈ segmentsOf path.bytes, slash ∉ segment := fun _ => no_slash_in_segments
  unfold parent? at up
  split at up
  · cases up
  · rename_i first rest split
    rw [split] at noSlash
    split at up
    · split at up
      · cases up
      · cases up
        rfl
    · rename_i last before dropped
      split at up
      · cases up
        by_cases absolute : path.isAbsolute = true
        · simp [absolute, withoutFinalSlashes, slash]
        · simp only [absolute, if_false, Bool.false_eq_true]
          exact withoutFinalSlashes_of_closed (getLast?_ne_slash (noSlash first (by simp)))
      · rename_i kept nonempty
        cases up
        apply withoutFinalSlashes_of_closed
        obtain ⟨segment, others, kept⟩ :=
          List.exists_cons_of_ne_nil fun empty => nonempty (List.reverse_eq_nil_iff.2 empty)
        have busy : isIdle segment = false := by
          have head := List.head?_dropWhile_not isIdle before
          rw [kept] at head
          simpa using head
        have inside : segment ∈ first :: rest := by
          have inBefore : segment ∈ before :=
            (List.dropWhile_suffix isIdle).subset (kept ▸ List.mem_cons_self ..)
          have inRest : segment ∈ rest.reverse :=
            (List.dropWhile_suffix isIdle).subset (dropped ▸ List.mem_cons_of_mem last inBefore)
          exact List.mem_cons_of_mem first (List.mem_reverse.1 inRest)
        have filled : segment ≠ [] := by
          rintro rfl
          cases busy
        rw [kept, List.reverse_cons, ← List.cons_append, ofSegments_append (by simp),
          List.getLast?_append, List.getLast?_cons_of_ne_nil filled,
          List.getLast?_eq_some_getLast filled, Option.some_or]
        exact fun same => noSlash segment inside (Option.some.inj same ▸ List.getLast_mem filled)

end CodeInventory.Path
