import CodeInventory.Proofs.FileTree.Growth
import CodeInventory.Proofs.FileTree.Visits

namespace CodeInventory.FileTree

open CodeInventory.Path CodeInventory.Text

variable {tree : FileTree} {links : Nat} {here location : Location} {segments : List Bytes}

def namesOf (segments : List Bytes) : Location := segments.filter fun segment => !isIdle segment

theorem namesOf_idle {segment : Bytes} (idle : isIdle segment = true) (rest : List Bytes) :
    namesOf (segment :: rest) = namesOf rest := by
  simp [namesOf, idle]

theorem namesOf_name {segment : Bytes} (busy : ¬ isIdle segment = true) (rest : List Bytes) :
    namesOf (segment :: rest) = segment :: namesOf rest := by
  simp [namesOf, busy]

theorem Leads.straight {purpose : Purpose}
    (leads : Leads tree purpose links here segments (.occupied location))
    (unlinked : tree.Unlinked) (plain : dots ∉ segments) :
    location = here ++ namesOf segments ∧
      ∀ name ∈ namesOf segments, name.length ≤ nameLimit := by
  generalize same : Place.occupied location = place at leads
  induction leads with
  | arrived links here =>
    cases same
    simp [namesOf]
  | idle idle next ih =>
    rw [namesOf_idle idle]
    exact ih (fun later => plain (.tail _ later)) same
  | up next ih => exact absurd (List.mem_cons_self ..) plain
  | directory looked found next ih =>
    obtain ⟨reached, short⟩ := ih (fun later => plain (.tail _ later)) same
    rw [namesOf_name looked.notIdle]
    refine ⟨by rw [reached, List.append_assoc, List.singleton_append], ?_⟩
    exact List.forall_mem_cons.2 ⟨Nat.le_of_not_lt looked.short, short⟩
  | free looked missing => cases same
  | file looked found =>
    cases same
    rw [namesOf_name looked.notIdle]
    exact ⟨rfl, List.forall_mem_singleton.2 (Nat.le_of_not_lt looked.short)⟩
  | entry looked found last => exact absurd found (unlinked _ _)
  | link looked found followed nonempty next ih => exact absurd found (unlinked _ _)

theorem leads_straight (plain : dots ∉ segments)
    (short : ∀ name ∈ namesOf segments, name.length ≤ nameLimit)
    (directory : tree.kindAt? (here ++ namesOf segments) = some .directory) (links : Nat) :
    Leads tree .target links here segments (.occupied (here ++ namesOf segments)) := by
  induction segments generalizing here with
  | nil =>
    rw [show namesOf [] = [] from rfl, List.append_nil]
    exact .arrived links here
  | cons segment rest ih =>
    have later : dots ∉ rest := fun member => plain (.tail _ member)
    by_cases idle : isIdle segment = true
    · rw [namesOf_idle idle] at short directory ⊢
      exact .idle idle (ih later short directory)
    · rw [namesOf_name idle] at short directory ⊢
      have split : here ++ segment :: namesOf rest = (here ++ [segment]) ++ namesOf rest := by simp
      rw [split] at directory ⊢
      have notUp : segment ≠ dots := fun same => plain (same ▸ List.mem_cons_self ..)
      have looked : LookedUp .target segment rest :=
        ⟨idle, notUp, by simp, Nat.not_lt.2 (short segment (.head _))⟩
      have passed : tree.kindAt? (here ++ [segment]) = some .directory := by
        by_cases last : namesOf rest = []
        · rw [last, List.append_nil] at directory
          exact directory
        · exact directory_above directory last
      exact .directory looked passed (ih later (fun name member => short name (.tail _ member))
        directory)

theorem leads_idle {purpose : Purpose} (idle : ∀ segment ∈ segments, isIdle segment = true)
    (links : Nat) (here : Location) :
    Leads tree purpose links here segments (.occupied here) := by
  induction segments with
  | nil => exact .arrived links here
  | cons segment rest ih =>
    obtain ⟨first, others⟩ := List.forall_mem_cons.1 idle
    exact .idle first (ih others)

theorem Leads.last_segment {purpose : Purpose} {content : Bytes}
    (leads : Leads tree purpose links here segments (.occupied location))
    (unlinked : tree.Unlinked) (start : tree.kindAt? here = some .directory)
    (file : tree.kindAt? location = some (.file content)) :
    ∃ before directory name, segments = before ++ [name] ∧ location = directory ++ [name] := by
  generalize same : Place.occupied location = place at leads
  induction leads with
  | arrived links here =>
    cases same
    rw [start] at file
    cases file
  | idle idle next ih =>
    obtain ⟨before, directory, name, split, reached⟩ := ih start same
    exact ⟨_ :: before, directory, name, by rw [split]; rfl, reached⟩
  | up next ih =>
    obtain ⟨before, directory, name, split, reached⟩ := ih (directory_dropLast start) same
    exact ⟨_ :: before, directory, name, by rw [split]; rfl, reached⟩
  | directory looked found next ih =>
    obtain ⟨before, directory, name, split, reached⟩ := ih found same
    exact ⟨_ :: before, directory, name, by rw [split]; rfl, reached⟩
  | free looked missing => cases same
  | @file links here segment content looked found =>
    cases same
    exact ⟨[], here, segment, rfl, rfl⟩
  | entry looked found last => exact absurd found (unlinked _ _)
  | link looked found followed nonempty next ih => exact absurd found (unlinked _ _)

def Openable (base path : Path) : Prop :=
  Usable (base.join path) ∧ ∀ name ∈ namesOf (segmentsOf path.bytes), name.length ≤ nameLimit

def straightBelow (home : Location) (path : Path) : Location :=
  origin path home ++ namesOf (segmentsOf path.bytes)

theorem leads_join {base : Path} {home : Location} (path : Path)
    (reached : tree.locate base = .ok home) (directory : tree.kindAt? home = some .directory) :
    ∃ left, ∀ location,
      Leads tree .target linkLimit (origin (base.join path) tree.workingDirectory)
          (segmentsOf (base.join path).bytes) (.occupied location) ↔
        Leads tree .target left (origin path home) (segmentsOf path.bytes) (.occupied location) := by
  obtain ⟨usable, leads⟩ := locate_ok_iff.1 reached
  cases relative : path.isAbsolute with
  | true =>
    have same : base.join path = path := by rw [join, relative, if_pos rfl]
    refine ⟨linkLimit, fun location => ?_⟩
    simp only [same, origin, relative, if_true]
  | false =>
    obtain ⟨before, blank, segments, blanks, _, joined⟩ :=
      segmentsOf_join_relative usable.nonempty relative
    obtain ⟨entries, there⟩ := kindAt?_directory.1 directory
    rw [segments] at leads
    -- past the directory only the segments of the second path are left
    obtain ⟨left, through⟩ :=
      descend_through blanks (descend_ok_iff.2 leads) there (segmentsOf path.bytes)
    have start : origin (base.join path) tree.workingDirectory =
        origin base tree.workingDirectory := by
      simp only [origin, isAbsolute_join usable.nonempty relative]
    have home : origin path home = home := by simp [origin, relative]
    refine ⟨left, fun location => ?_⟩
    rw [start, joined, home, ← descend_ok_iff, ← descend_ok_iff, through]

theorem locate_join_iff {base path : Path} {home : Location} (unlinked : tree.Unlinked)
    (reached : tree.locate base = .ok home)
    (directory : tree.kindAt? home = some .directory) (plain : dots ∉ segmentsOf path.bytes)
    (location : Location) :
    tree.locate (base.join path) = .ok location ∧ tree.kindAt? location = some .directory ↔
      Openable base path ∧ location = straightBelow home path ∧
        tree.kindAt? location = some .directory := by
  obtain ⟨left, below⟩ := leads_join path reached directory
  rw [locate_ok_iff, below]
  constructor
  · rintro ⟨⟨usable, leads⟩, found⟩
    obtain ⟨same, short⟩ := leads.straight unlinked plain
    exact ⟨⟨usable, short⟩, same, found⟩
  · rintro ⟨⟨usable, short⟩, rfl, found⟩
    exact ⟨⟨usable, leads_straight plain short found left⟩, found⟩

end CodeInventory.FileTree
