import CodeInventory.Path

namespace CodeInventory.Path

open CodeInventory.Text

structure NameValid (name : Bytes) : Prop where
  nonempty : name ≠ []
  notHere : name ≠ dot
  notUp : name ≠ dots
  noSlash : slash ∉ name

instance (name : Bytes) : Decidable (NameValid name) :=
  decidable_of_iff (name ≠ [] ∧ name ≠ dot ∧ name ≠ dots ∧ slash ∉ name)
    ⟨fun ⟨nonempty, notHere, notUp, noSlash⟩ => ⟨nonempty, notHere, notUp, noSlash⟩,
      fun valid => ⟨valid.nonempty, valid.notHere, valid.notUp, valid.noSlash⟩⟩

theorem NameValid.not_idle {name : Bytes} (valid : NameValid name) : isIdle name = false := by
  simp [isIdle, valid.nonempty, valid.notHere]

theorem NameValid.component {name : Bytes} (valid : NameValid name) :
    component? name = some (.name name) := by
  rw [component?, valid.not_idle]
  simp [valid.notUp]

theorem NameValid.not_absolute {name : Bytes} (valid : NameValid name) :
    isAbsolute ⟨name⟩ = false := by
  cases name with
  | nil => rfl
  | cons first rest =>
    have different : first ≠ slash := fun same => valid.noSlash (same ▸ List.mem_cons_self ..)
    simp [isAbsolute, different]

theorem segmentsOf_ne_nil (bytes : Bytes) : segmentsOf bytes ≠ [] := by
  cases bytes with
  | nil => simp [segmentsOf]
  | cons b rest =>
    rw [segmentsOf]
    split
    · simp
    · split <;> simp

theorem segmentsOf_slash (front back : Bytes) :
    segmentsOf (front ++ slash :: back) = segmentsOf front ++ segmentsOf back := by
  induction front with
  | nil => simp [segmentsOf]
  | cons b rest ih =>
    rw [List.cons_append, segmentsOf, segmentsOf, ih]
    split
    · rfl
    · obtain ⟨first, others, split⟩ := List.exists_cons_of_ne_nil (segmentsOf_ne_nil rest)
      rw [split]
      rfl

theorem no_slash_in_segments {bytes segment : Bytes} (member : segment ∈ segmentsOf bytes) :
    slash ∉ segment := by
  induction bytes generalizing segment with
  | nil =>
    rw [segmentsOf, List.mem_singleton] at member
    simp [member]
  | cons b rest ih =>
    rw [segmentsOf] at member
    split at member
    · rcases List.mem_cons.1 member with rfl | member
      · simp
      · exact ih member
    · rename_i different
      obtain ⟨first, others, split⟩ := List.exists_cons_of_ne_nil (segmentsOf_ne_nil rest)
      rw [split] at member ih
      rcases List.mem_cons.1 member with rfl | member
      · exact List.not_mem_cons_of_ne_of_not_mem (Ne.symm different) (ih (List.mem_cons_self ..))
      · exact ih (List.mem_cons_of_mem _ member)

theorem segmentsOf_of_no_slash {bytes : Bytes} (noSlash : slash ∉ bytes) :
    segmentsOf bytes = [bytes] := by
  induction bytes with
  | nil => rfl
  | cons b rest ih =>
    rw [List.mem_cons, not_or] at noSlash
    rw [segmentsOf, if_neg (Ne.symm noSlash.1), ih noSlash.2]

theorem join_bytes (base : Path) {name : Bytes} (valid : NameValid name) :
    ∃ between, (between = [] ∨ between = [slash]) ∧
      (base.join ⟨name⟩).bytes = base.bytes ++ between ++ name := by
  rw [join, if_neg (by simp [valid.not_absolute])]
  split
  · exact ⟨[], .inl rfl, by simp⟩
  · exact ⟨[slash], .inr rfl, by simp⟩

theorem join_ne_nil (base : Path) {name : Bytes} (valid : NameValid name) :
    (base.join ⟨name⟩).bytes ≠ [] := by
  obtain ⟨between, _, same⟩ := join_bytes base valid
  simp [same, valid.nonempty]

theorem join_closed (base : Path) {name : Bytes} (valid : NameValid name) :
    (base.join ⟨name⟩).bytes.getLast? ≠ some slash := by
  obtain ⟨between, _, same⟩ := join_bytes base valid
  rw [same, List.getLast?_append, List.getLast?_eq_some_getLast valid.nonempty, Option.some_or]
  intro last
  exact valid.noSlash (Option.some.inj last ▸ List.getLast_mem valid.nonempty)

theorem segmentsOf_join_closed {base : Path} (nonempty : base.bytes ≠ [])
    (closed : base.bytes.getLast? ≠ some slash) {name : Bytes} (valid : NameValid name) :
    segmentsOf (base.join ⟨name⟩).bytes = segmentsOf base.bytes ++ [name] := by
  rw [join, if_neg (by simp [valid.not_absolute]), if_neg (by simp [nonempty, closed]),
    segmentsOf_slash, segmentsOf_of_no_slash valid.noSlash]

theorem join_relative (base : Path) {path : Path} (relative : path.isAbsolute = false) :
    base.join path = if base.bytes = [] ∨ base.bytes.getLast? = some slash then
      ⟨base.bytes ++ path.bytes⟩ else ⟨base.bytes ++ slash :: path.bytes⟩ := by
  rw [join, relative]
  exact if_neg (by simp)

theorem segmentsOf_join_relative {base path : Path} (nonempty : base.bytes ≠ [])
    (relative : path.isAbsolute = false) :
    ∃ before blank, segmentsOf base.bytes = before ++ blank ∧
      (∀ segment ∈ blank, segment = []) ∧ before ≠ [] ∧
      segmentsOf (base.join path).bytes = before ++ segmentsOf path.bytes := by
  rw [join_relative base relative]
  by_cases closed : base.bytes.getLast? = some slash
  · obtain ⟨front, split⟩ := List.getLast?_eq_some_iff.1 closed
    refine ⟨segmentsOf front, [[]], ?_, by simp, segmentsOf_ne_nil front, ?_⟩
    · rw [split, segmentsOf_slash]
      rfl
    · rw [if_pos (.inr closed), split, List.append_assoc, List.singleton_append, segmentsOf_slash]
  · refine ⟨segmentsOf base.bytes, [], by simp, by simp, segmentsOf_ne_nil _, ?_⟩
    rw [if_neg (by simp [nonempty, closed]), segmentsOf_slash]

theorem segmentsOf_join {base : Path} (nonempty : base.bytes ≠ []) {name : Bytes}
    (valid : NameValid name) :
    ∃ before blank, segmentsOf base.bytes = before ++ blank ∧
      (∀ segment ∈ blank, segment = []) ∧ before ≠ [] ∧
      segmentsOf (base.join ⟨name⟩).bytes = before ++ [name] := by
  obtain ⟨before, blank, segments, blanks, present, joined⟩ :=
    segmentsOf_join_relative nonempty valid.not_absolute
  rw [segmentsOf_of_no_slash valid.noSlash] at joined
  exact ⟨before, blank, segments, blanks, present, joined⟩

theorem length_lt_join {base : Path} {name : Bytes} (valid : NameValid name) :
    base.bytes.length < (base.join ⟨name⟩).bytes.length := by
  obtain ⟨between, _, same⟩ := join_bytes base valid
  have positive := List.length_pos_iff.2 valid.nonempty
  rw [same, List.length_append, List.length_append]
  omega

theorem isAbsolute_join {base path : Path} (nonempty : base.bytes ≠ [])
    (relative : path.isAbsolute = false) : (base.join path).isAbsolute = base.isAbsolute := by
  obtain ⟨first, rest, split⟩ := List.exists_cons_of_ne_nil nonempty
  rw [join_relative base relative]
  split <;> simp [isAbsolute, split]

theorem zero_mem_join {base : Path} {name : Bytes} (valid : NameValid name) :
    0 ∈ (base.join ⟨name⟩).bytes ↔ 0 ∈ base.bytes ∨ 0 ∈ name := by
  obtain ⟨between, kind, same⟩ := join_bytes base valid
  rw [same, List.mem_append, List.mem_append]
  rcases kind with rfl | rfl
  · simp
  · simp [slash]

theorem relative_of_segments {path : Path} {first : Bytes} {rest : List Bytes}
    (segments : segmentsOf path.bytes = first :: rest) (filled : first ≠ []) :
    path.isAbsolute = false := by
  obtain ⟨bytes⟩ := path
  cases bytes with
  | nil => rfl
  | cons b others =>
    have different : b ≠ slash := by
      intro same
      rw [segmentsOf, if_pos same] at segments
      cases segments
      exact filled rfl
    simp [isAbsolute, different]

theorem fileName?_of_segments {path : Path} {before : List Bytes} {name : Bytes}
    (segments : segmentsOf path.bytes = before ++ [name]) (valid : NameValid name) :
    path.fileName? = some name := by
  rw [fileName?, components, segments]
  cases before with
  | nil =>
    have relative := relative_of_segments segments valid.nonempty
    simp [relative, valid.notHere, valid.component]
  | cons first rest =>
    have last : (rest ++ [name]).filterMap component? =
        rest.filterMap component? ++ [.name name] := by
      rw [List.filterMap_append]
      simp [valid.component]
    simp only [List.cons_append, last]
    simp [← List.append_assoc]

theorem fileName?_join {base : Path} (nonempty : base.bytes ≠ []) {name : Bytes}
    (valid : NameValid name) : (base.join ⟨name⟩).fileName? = some name := by
  obtain ⟨before, _, _, _, _, segments⟩ := segmentsOf_join nonempty valid
  exact fileName?_of_segments segments valid

theorem component?_eq_up {segment : Bytes} : component? segment = some .up ↔ segment = dots := by
  constructor
  · intro up
    unfold component? at up
    split at up
    · cases up
    · split at up
      · assumption
      · cases up
  · rintro rfl
    decide

theorem up_mem_components_iff {path : Path} :
    Component.up ∈ path.components ↔ dots ∈ segmentsOf path.bytes := by
  obtain ⟨first, rest, split⟩ := List.exists_cons_of_ne_nil (segmentsOf_ne_nil path.bytes)
  have later : Component.up ∈ rest.filterMap component? ↔ dots ∈ rest := by
    simp [List.mem_filterMap, component?_eq_up]
  rw [components, split]
  simp only [List.mem_append, List.mem_cons, later, Option.mem_toList]
  refine or_congr_left ?_
  by_cases up : dots = first
  · subst up
    have relative := relative_of_segments split (by decide)
    have notHere : dots ≠ dot := by decide
    simp [relative, notHere, component?_eq_up]
  · refine iff_of_false ?_ up
    split
    · simp
    · split
      · simp
      · exact fun named => up (component?_eq_up.1 named).symm

end CodeInventory.Path
