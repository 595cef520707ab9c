import CodeInventory.FileTree.Walk
import CodeInventory.Proofs.FileTree.Resolution

namespace CodeInventory.FileTree

open CodeInventory.Path CodeInventory.Text

variable {tree : FileTree}

mutual

def Node.files : Node → List (Location × Bytes)
  | .file content => [([], content)]
  | .link _ => []
  | .directory entries => filesIn entries

def filesIn : List (Name × Node) → List (Location × Bytes)
  | [] => []
  | (name, node) :: rest => node.files.map (fun file => (name :: file.1, file.2)) ++ filesIn rest

end

theorem mem_filesIn {names : Location} {content : Bytes} {entries : Entries} :
    (names, content) ∈ filesIn entries ↔
      ∃ name rest node, names = name :: rest ∧ (name, node) ∈ entries ∧
        (rest, content) ∈ node.files := by
  induction entries with
  | nil => simp [filesIn]
  | cons entry others ih =>
    obtain ⟨name, node⟩ := entry
    rw [filesIn, List.mem_append, ih]
    constructor
    · rintro (member | ⟨first, rest, found, split, inside, below⟩)
      · obtain ⟨⟨rest, bytes⟩, below, same⟩ := List.mem_map.1 member
        cases same
        exact ⟨name, rest, node, rfl, List.mem_cons_self .., below⟩
      · exact ⟨first, rest, found, split, List.mem_cons_of_mem _ inside, below⟩
    · rintro ⟨first, rest, found, rfl, inside, below⟩
      rcases List.mem_cons.1 inside with same | inside
      · cases same
        exact .inl (List.mem_map.2 ⟨(rest, content), below, rfl⟩)
      · exact .inr ⟨first, rest, found, rfl, inside, below⟩

theorem mem_files_iff {names : Location} {content : Bytes} {node : Node}
    (wellFormed : node.WellFormed) :
    (names, content) ∈ node.files ↔ node.at? names = some (.file content) := by
  induction names generalizing node with
  | nil =>
    cases node with
    | file bytes => simp [Node.files, Node.at?, eq_comm]
    | link target => simp [Node.files, Node.at?]
    | directory entries => simp [Node.files, Node.at?, mem_filesIn]
  | cons name rest ih =>
    cases wellFormed with
    | file bytes => simp [Node.files, Node.at?, Node.child?]
    | link target => simp [Node.files, Node.at?, Node.child?]
    | directory entries ordered inner =>
      rw [Node.files, mem_filesIn, Node.at?, Option.bind_eq_some_iff]
      constructor
      · rintro ⟨first, others, child, ⟨rfl, rfl⟩, inside, below⟩
        exact ⟨child, get?_of_mem ordered inside, (ih (inner _ inside)).1 below⟩
      · rintro ⟨child, here, below⟩
        have inside := mem_of_get? here
        exact ⟨name, rest, child, rfl, inside, (ih (inner _ inside)).2 below⟩

/-- Files of an entry come before files of a later entry. -/
theorem filesIn_increasing {entries : Entries} (names : NamesOrdered entries)
    (inner : ∀ entry ∈ entries, entry.2.files.Pairwise fun a b => a.1 < b.1) :
    (filesIn entries).Pairwise fun a b => a.1 < b.1 := by
  induction entries with
  | nil => simp [filesIn]
  | cons entry rest ih =>
    obtain ⟨name, node⟩ := entry
    rw [filesIn, List.pairwise_append, List.pairwise_map]
    refine ⟨?_, ih names.tail fun other member => inner other (List.mem_cons_of_mem _ member), ?_⟩
    · refine (inner _ (List.mem_cons_self ..)).imp fun less => ?_
      exact List.cons_lt_cons_iff.2 (.inr ⟨rfl, less⟩)
    · intro lower isLower upper isUpper
      obtain ⟨file, _, rfl⟩ := List.mem_map.1 isLower
      obtain ⟨first, others, child, split, inside, _⟩ := mem_filesIn.1 isUpper
      have less : name < first := (List.pairwise_cons.1 names.2).1 _ inside
      rw [split, List.cons_lt_cons_iff]
      exact .inl less

theorem files_increasing {node : Node} (wellFormed : node.WellFormed) :
    node.files.Pairwise fun a b => a.1 < b.1 := by
  induction wellFormed with
  | file content => simp [Node.files]
  | link target => simp [Node.files]
  | directory entries names inner ih => exact filesIn_increasing names ih

theorem valid_of_mem_files {names : Location} {content : Bytes} {node : Node}
    (wellFormed : node.WellFormed) (member : (names, content) ∈ node.files) :
    ∀ name ∈ names, NameValid name :=
  valid_of_at? wellFormed ((mem_files_iff wellFormed).1 member)

def Visit.keptBy {β : Type} (keep : Path → Option β) : Visit → Option β
  | .file path => keep path
  | .failed _ => none

section Walk

variable {β : Type} {keep : Path → Option β}

def WalkKeeps (tree : FileTree) (keep : Path → Option β) (entries : Entries) : Prop :=
  ∀ here above, (tree.walkEntries false here above entries).filterMap (Visit.keptBy keep) =
    (filesIn entries).filterMap fun file => keep (pathBelow here.path file.1)

theorem filterMap_below (here : Path) (name : Name) (files : List (Location × Bytes)) :
    (files.map fun file => (name :: file.1, file.2)).filterMap
        (fun file => keep (pathBelow here file.1)) =
      files.filterMap fun file => keep (pathBelow (here.join ⟨name⟩) file.1) := by
  rw [List.filterMap_map]
  rfl

/-- Below a directory whose path is too long every path is. -/
theorem nothing_kept_below (long : ∀ path, pathLimit < path.bytes.length → keep path = none)
    {path : Path} (excess : pathLimit < path.bytes.length) {node : Node}
    (wellFormed : node.WellFormed) :
    (node.files.filterMap fun file => keep (pathBelow path file.1)) = [] := by
  refine List.filterMap_eq_nil_iff.2 fun file member => long _ ?_
  exact Nat.lt_of_lt_of_le excess (length_le_pathBelow path (valid_of_mem_files wellFormed member))

theorem walkKeeps_of_inner (long : ∀ path, pathLimit < path.bytes.length → keep path = none)
    {entries : Entries} (wellFormed : ∀ entry ∈ entries, entry.2.WellFormed)
    (inner : ∀ name inside, (name, .directory inside) ∈ entries → WalkKeeps tree keep inside) :
    WalkKeeps tree keep entries := by
  intro here above
  induction entries with
  | nil => simp [walkEntries, filesIn]
  | cons entry rest ih =>
    obtain ⟨name, node⟩ := entry
    obtain ⟨first, others⟩ := List.forall_mem_cons.1 wellFormed
    have tail := ih others fun name inside member =>
      inner name inside (List.mem_cons_of_mem _ member)
    rw [filesIn, List.filterMap_append, filterMap_below, ← tail]
    cases node with
    | file content =>
      rw [walkEntries, List.filterMap_cons]
      cases kept : keep (here.path.join ⟨name⟩) <;> simp [Visit.keptBy, Node.files, pathBelow, kept]
    | link target => simp [walkEntries, Node.files]
    | directory inside =>
      rw [walkEntries]
      simp only [List.filterMap_append]
      congr 1
      split
      · rename_i excess
        exact (nothing_kept_below long excess first).symm
      · exact inner name inside (List.mem_cons_self ..) (here.inner name) (here :: above)

theorem walkKeeps (tree : FileTree)
    (long : ∀ path, pathLimit < path.bytes.length → keep path = none) {entries : Entries}
    (wellFormed : (Node.directory entries).WellFormed) : WalkKeeps tree keep entries := by
  generalize same : Node.directory entries = node at wellFormed
  induction wellFormed generalizing entries with
  | file content => cases same
  | link target => cases same
  | directory inside names inner ih =>
    cases same
    exact walkKeeps_of_inner long inner fun name inside member => ih _ member rfl

end Walk

end CodeInventory.FileTree
