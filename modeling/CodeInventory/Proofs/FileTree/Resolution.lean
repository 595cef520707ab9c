import CodeInventory.Proofs.FileTree.Sound

namespace CodeInventory.FileTree

open CodeInventory.Path CodeInventory.Text

variable {tree : FileTree}

theorem descend_blank {links : Nat} {here location : Location} {segments : List Bytes}
    (blank : ∀ segment ∈ segments, segment = [])
    (reached : descend tree .target links here segments = .ok (.occupied location)) :
    location = here := by
  induction segments with
  | nil =>
    rw [descend] at reached
    cases reached
    rfl
  | cons segment rest ih =>
    obtain rfl := blank segment (List.mem_cons_self ..)
    rw [descend, if_pos (show isIdle [] = true from rfl)] at reached
    exact ih (fun other member => blank other (List.mem_cons_of_mem _ member)) reached

/-- A path that leads to a directory leads on from there, whatever slashes it ends in. -/
theorem descend_through {links : Nat} {here location : Location} {segments blank : List Bytes}
    {entries : Entries} (blanks : ∀ segment ∈ blank, segment = [])
    (reached : descend tree .target links here (segments ++ blank) = .ok (.occupied location))
    (directory : tree.root.at? location = some (.directory entries)) (rest : List Bytes) :
    ∃ left, descend tree .target links here (segments ++ rest) =
      descend tree .target left location rest := by
  induction links, here, segments using descend.induct tree .target with
  | case1 links here =>
    obtain rfl := descend_blank blanks reached
    exact ⟨links, rfl⟩
  | case2 links here segment after idle ih =>
    rw [List.cons_append, descend, if_pos idle] at reached ⊢
    exact ih reached
  | case3 links here after notIdle ih =>
    rw [List.cons_append, descend, if_neg notIdle, if_pos rfl] at reached ⊢
    exact ih reached
  | case4 links here segment after notIdle notUp writing => cases writing.1
  | case5 links here segment after notIdle notUp _ long =>
    simp [descend, notIdle, notUp, long] at reached
  | case6 links here segment notIdle notUp short missing _ =>
    simp only [List.cons_append, List.nil_append, descend, notIdle, notUp, short, missing,
      reduceCtorEq, false_and, if_false, Bool.false_eq_true] at reached
    split at reached <;> cases reached
  | case7 links here segment after notIdle notUp _ short missing more =>
    simp [descend, notIdle, notUp, short, missing, more] at reached
  | case8 links here segment after notIdle notUp _ short inner found ih =>
    simp only [List.cons_append, descend, notIdle, notUp, short, found, reduceCtorEq, false_and,
      if_false, Bool.false_eq_true] at reached ⊢
    exact ih reached
  | case9 links here segment notIdle notUp short content found _ =>
    simp only [List.cons_append, List.nil_append, descend, notIdle, notUp, short, found,
      reduceCtorEq, false_and, if_false, Bool.false_eq_true] at reached
    split at reached
    · cases reached
      rw [found] at directory
      cases directory
    · cases reached
  | case10 links here segment after notIdle notUp _ short content found more =>
    simp [descend, notIdle, notUp, short, found, more] at reached
  | case11 links here segment after notIdle notUp _ short target found entry => cases entry.2
  | case12 links here segment after notIdle notUp _ short target found _ empty =>
    simp [descend, notIdle, notUp, short, found, empty] at reached
  | case13 here segment after notIdle notUp _ short target found _ nonempty =>
    simp [descend, notIdle, notUp, short, found, nonempty] at reached
  | case14 here segment after notIdle notUp _ short target found _ nonempty links ih =>
    simp only [List.cons_append, descend, notIdle, notUp, short, found, nonempty, reduceCtorEq,
      false_and, and_false, if_false, Bool.false_eq_true] at reached ⊢
    rw [← List.append_assoc] at reached ⊢
    exact ih reached

/-- Names lead from a directory to the file or directory that the tree has there, unless one of
them is too long. -/
theorem descend_names {location names : Location} {node : Node}
    (valid : ∀ name ∈ names, NameValid name)
    (found : tree.root.at? (location ++ names) = some node) (noLink : ∀ target, node ≠ .link target)
    (links : Nat) :
    descend tree .target links location names =
      if ∀ name ∈ names, name.length ≤ nameLimit then .ok (.occupied (location ++ names))
      else .error .nameTooLong := by
  induction names generalizing location with
  | nil => simp [descend]
  | cons name rest ih =>
    obtain ⟨first, others⟩ := List.forall_mem_cons.1 valid
    have split : location ++ name :: rest = (location ++ [name]) ++ rest := by simp
    rw [split] at found ⊢
    have parts := found
    rw [at?_append] at parts
    obtain ⟨child, here, below⟩ := Option.bind_eq_some_iff.1 parts
    by_cases fits : name.length ≤ nameLimit
    · simp only [descend, first.not_idle, first.notUp, Nat.not_lt.2 fits, here, reduceCtorEq,
        false_and, if_false, Bool.false_eq_true, List.forall_mem_cons, fits, true_and]
      cases child with
      | directory entries => exact ih others found
      | file content =>
        cases rest with
        | nil => simp
        | cons next more => cases below
      | link target =>
        cases rest with
        | nil =>
          cases below
          exact absurd rfl (noLink target)
        | cons next more => cases below
    · simp [descend, first.not_idle, first.notUp, fits, Nat.lt_of_not_le fits]

def pathBelow : Path → Location → Path
  | path, [] => path
  | path, name :: rest => pathBelow (path.join ⟨name⟩) rest

theorem segmentsOf_pathBelow_closed {base : Path} {names : Location} (nonempty : base.bytes ≠ [])
    (closed : base.bytes.getLast? ≠ some slash) (valid : ∀ name ∈ names, NameValid name) :
    segmentsOf (pathBelow base names).bytes = segmentsOf base.bytes ++ names := by
  induction names generalizing base with
  | nil => simp [pathBelow]
  | cons name rest ih =>
    obtain ⟨first, others⟩ := List.forall_mem_cons.1 valid
    rw [pathBelow, ih (join_ne_nil base first) (join_closed base first) others,
      segmentsOf_join_closed nonempty closed first, List.append_assoc]
    rfl

theorem segmentsOf_pathBelow {base : Path} {names : Location} (nonempty : base.bytes ≠ [])
    (deeper : names ≠ []) (valid : ∀ name ∈ names, NameValid name) :
    ∃ before blank, segmentsOf base.bytes = before ++ blank ∧
      (∀ segment ∈ blank, segment = []) ∧
      segmentsOf (pathBelow base names).bytes = before ++ names := by
  cases names with
  | nil => exact absurd rfl deeper
  | cons name rest =>
    obtain ⟨first, others⟩ := List.forall_mem_cons.1 valid
    obtain ⟨before, blank, segments, blanks, _, joined⟩ := segmentsOf_join nonempty first
    refine ⟨before, blank, segments, blanks, ?_⟩
    rw [pathBelow, segmentsOf_pathBelow_closed (join_ne_nil base first) (join_closed base first)
      others, joined, List.append_assoc]
    rfl

theorem pathBelow_ne_nil {base : Path} {names : Location} (nonempty : base.bytes ≠ [])
    (valid : ∀ name ∈ names, NameValid name) : (pathBelow base names).bytes ≠ [] := by
  induction names generalizing base with
  | nil => exact nonempty
  | cons name rest ih =>
    obtain ⟨first, others⟩ := List.forall_mem_cons.1 valid
    exact ih (join_ne_nil base first) others

theorem length_le_pathBelow (base : Path) {names : Location}
    (valid : ∀ name ∈ names, NameValid name) :
    base.bytes.length ≤ (pathBelow base names).bytes.length := by
  induction names generalizing base with
  | nil => exact Nat.le_refl _
  | cons name rest ih =>
    obtain ⟨first, others⟩ := List.forall_mem_cons.1 valid
    exact Nat.le_trans (Nat.le_of_lt (length_lt_join first)) (ih (base.join ⟨name⟩) others)

theorem isAbsolute_pathBelow {base : Path} {names : Location} (nonempty : base.bytes ≠ [])
    (valid : ∀ name ∈ names, NameValid name) :
    (pathBelow base names).isAbsolute = base.isAbsolute := by
  induction names generalizing base with
  | nil => rfl
  | cons name rest ih =>
    obtain ⟨first, others⟩ := List.forall_mem_cons.1 valid
    exact (ih (join_ne_nil base first) others).trans (isAbsolute_join nonempty first.not_absolute)

theorem zero_mem_pathBelow (base : Path) {names : Location}
    (valid : ∀ name ∈ names, NameValid name) :
    0 ∈ (pathBelow base names).bytes ↔ 0 ∈ base.bytes ∨ ∃ name ∈ names, 0 ∈ name := by
  induction names generalizing base with
  | nil => simp [pathBelow]
  | cons name rest ih =>
    obtain ⟨first, others⟩ := List.forall_mem_cons.1 valid
    rw [pathBelow, ih (base.join ⟨name⟩) others, zero_mem_join first]
    simp [or_assoc]

theorem fileName?_pathBelow {base : Path} {names : Location} (nonempty : base.bytes ≠ [])
    (valid : ∀ name ∈ names, NameValid name) (deeper : names ≠ []) :
    (pathBelow base names).fileName? = names.getLast? := by
  induction names generalizing base with
  | nil => exact absurd rfl deeper
  | cons name rest ih =>
    obtain ⟨first, others⟩ := List.forall_mem_cons.1 valid
    cases rest with
    | nil => exact fileName?_join nonempty first
    | cons next more =>
      rw [pathBelow, ih (join_ne_nil base first) others (List.cons_ne_nil next more),
        List.getLast?_cons_cons]

/-- What the length limits and the system's strings ask of a path below a root. -/
def Fits (root : Path) (names : Location) : Prop :=
  (∀ name ∈ names, name.length ≤ nameLimit) ∧ (∀ name ∈ names, 0 ∉ name) ∧
    (pathBelow root names).bytes.length ≤ pathLimit

instance (root : Path) (names : Location) : Decidable (Fits root names) :=
  inferInstanceAs (Decidable (_ ∧ _ ∧ _))

theorem locate_eq_ok {path : Path} {location : Location} (reached : tree.locate path = .ok location) :
    path.bytes ≠ [] ∧ 0 ∉ path.bytes ∧ path.bytes.length ≤ pathLimit ∧
      descend tree .target linkLimit (origin path tree.workingDirectory) (segmentsOf path.bytes) =
        .ok (.occupied location) := by
  unfold locate resolve at reached
  by_cases empty : path.bytes = []
  · simp [empty] at reached
  · by_cases zero : path.bytes.contains 0 = true
    · simp only [empty, zero, if_false, if_true, reduceCtorEq] at reached
    · by_cases long : pathLimit < path.bytes.length
      · simp only [empty, zero, long, if_false, if_true, reduceCtorEq, Bool.false_eq_true]
          at reached
      · simp only [empty, zero, long, if_false, Bool.false_eq_true] at reached
        refine ⟨empty, by simpa using zero, Nat.le_of_not_lt long, ?_⟩
        split at reached
        · rename_i found
          cases reached
          exact found
        · cases reached
        · cases reached

def misfit (names : Location) : Fault :=
  if ∃ name ∈ names, 0 ∈ name then .zeroByte else .nameTooLong

theorem locate_pathBelow (tree : SoundTree) {root : Path} {location names : Location}
    {entries : Entries} {node : Node} (reached : tree.locate root = .ok location)
    (directory : tree.root.at? location = some (.directory entries)) (deeper : names ≠ [])
    (found : tree.root.at? (location ++ names) = some node)
    (noLink : ∀ target, node ≠ .link target) :
    tree.locate (pathBelow root names) =
      if Fits root names then .ok (location ++ names) else .error (misfit names) := by
  have valid : ∀ name ∈ names, NameValid name := fun name member =>
    valid_of_at? tree.wellFormed found name (List.mem_append_right _ member)
  obtain ⟨nonempty, noZero, _, descended⟩ := locate_eq_ok reached
  obtain ⟨before, blank, segments, blanks, below⟩ := segmentsOf_pathBelow nonempty deeper valid
  rw [segments] at descended
  obtain ⟨left, through⟩ := descend_through blanks descended directory names
  have start : origin (pathBelow root names) tree.workingDirectory =
      origin root tree.workingDirectory := by
    simp only [origin, isAbsolute_pathBelow nonempty valid]
  have zeros : (pathBelow root names).bytes.contains 0 = true ↔ ∃ name ∈ names, 0 ∈ name := by
    simp [zero_mem_pathBelow root valid, noZero]
  simp only [locate, resolve, pathBelow_ne_nil nonempty valid, if_false, zeros, start, below,
    through, descend_names valid found noLink, misfit]
  by_cases zero : ∃ name ∈ names, 0 ∈ name
  · obtain ⟨name, member, inside⟩ := zero
    have unfit : ¬ Fits root names := fun fits => fits.2.1 name member inside
    simp only [if_pos (show ∃ name ∈ names, 0 ∈ name from ⟨name, member, inside⟩), if_neg unfit]
  · have free : ∀ name ∈ names, 0 ∉ name := fun name member inside => zero ⟨name, member, inside⟩
    by_cases long : pathLimit < (pathBelow root names).bytes.length
    · have unfit : ¬ Fits root names := fun fits => Nat.not_le.2 long fits.2.2
      simp only [if_neg zero, if_pos long, if_neg unfit]
    · by_cases short : ∀ name ∈ names, name.length ≤ nameLimit
      · have fits : Fits root names := ⟨short, free, Nat.le_of_not_lt long⟩
        simp only [if_neg zero, if_neg long, if_pos short, if_pos fits]
      · have unfit : ¬ Fits root names := fun fits => short fits.1
        simp only [if_neg zero, if_neg long, if_neg short, if_neg unfit]

theorem readBytes_pathBelow (tree : SoundTree) {root : Path} {location names : Location}
    {entries : Entries} {content : Bytes} (reached : tree.locate root = .ok location)
    (directory : tree.root.at? location = some (.directory entries))
    (found : tree.root.at? (location ++ names) = some (.file content)) :
    tree.readBytes (pathBelow root names) =
      if Fits root names then .ok content else .error (misfit names) := by
  have deeper : names ≠ [] := by
    rintro rfl
    rw [List.append_nil, directory] at found
    cases found
  have located := locate_pathBelow tree reached directory deeper found (by simp)
  by_cases fits : Fits root names
  · rw [if_pos fits] at located ⊢
    simp only [readBytes, located, found]
  · rw [if_neg fits] at located ⊢
    simp only [readBytes, located]

end CodeInventory.FileTree
