import CodeInventory.FileTree.Resolve

namespace CodeInventory.FileTree

inductive Obstacle where
  | loop (ancestor : Path)
  | unreachable (fault : Fault)
  deriving DecidableEq

structure WalkError where
  path : Path
  obstacle : Obstacle
  deriving DecidableEq

def WalkError.message (error : WalkError) : String :=
  match error.obstacle with
  | .loop ancestor =>
    "File system loop found: " ++ error.path.display ++ " points to an ancestor " ++
      ancestor.display
  | .unreachable fault =>
    "IO error for operation on " ++ error.path.display ++ ": " ++ fault.message

inductive Visit where
  | file (path : Path)
  | failed (error : WalkError)
  deriving DecidableEq

/-- A directory that the walk is inside of, with the path it was reached by. -/
structure OpenDirectory where
  location : Location
  path : Path
  deriving DecidableEq

def OpenDirectory.inner (directory : OpenDirectory) (name : Name) : OpenDirectory :=
  ⟨directory.location ++ [name], directory.path.join ⟨name⟩⟩

def unopened (tree : FileTree) (opened : List OpenDirectory) : Nat :=
  (tree.root.directories.filter fun location => opened.all (·.location ≠ location)).length

theorem length_filter_le_of_imp {α : Type} {p q : α → Bool} {items : List α}
    (implies : ∀ x ∈ items, p x = true → q x = true) :
    (items.filter p).length ≤ (items.filter q).length := by
  induction items with
  | nil => simp
  | cons x rest ih =>
    have tail := ih fun y member => implies y (List.mem_cons_of_mem _ member)
    have head := implies x (List.mem_cons_self ..)
    rw [List.filter_cons, List.filter_cons]
    split
    · rename_i px
      rw [if_pos (head px)]
      exact Nat.succ_le_succ tail
    · split
      · exact Nat.le_succ_of_le tail
      · exact tail

theorem length_filter_lt_of_imp {α : Type} {p q : α → Bool} {items : List α} {x : α}
    (implies : ∀ y ∈ items, p y = true → q y = true) (member : x ∈ items) (new : p x = false)
    (old : q x = true) : (items.filter p).length < (items.filter q).length := by
  induction items with
  | nil => simp at member
  | cons y rest ih =>
    have tail : ∀ z ∈ rest, p z = true → q z = true := fun z inside =>
      implies z (List.mem_cons_of_mem _ inside)
    have head := implies y (List.mem_cons_self ..)
    have shorter := length_filter_le_of_imp tail
    rcases List.mem_cons.1 member with rfl | member
    · simp only [List.filter_cons, new, old, Bool.false_eq_true, ↓reduceIte, List.length_cons]
      omega
    · have strictly := ih tail member
      rw [List.filter_cons, List.filter_cons]
      split
      · rename_i py
        rw [if_pos (head py)]
        exact Nat.succ_lt_succ strictly
      · split
        · exact Nat.lt_succ_of_lt strictly
        · exact strictly

theorem unopened_cons_le (tree : FileTree) (directory : OpenDirectory)
    (opened : List OpenDirectory) : tree.unopened (directory :: opened) ≤ tree.unopened opened :=
  length_filter_le_of_imp (by simp)

theorem unopened_cons_lt (tree : FileTree) {directory : OpenDirectory} {opened : List OpenDirectory}
    {entries : Entries} (found : tree.root.at? directory.location = some (.directory entries))
    (closed : ∀ other ∈ opened, other.location ≠ directory.location) :
    tree.unopened (directory :: opened) < tree.unopened opened :=
  length_filter_lt_of_imp (by simp) (mem_directories found) (by simp) (by simpa using closed)

/-- Visits the entries of the directory `here`, which is inside the directories `above`, each
directory in full before its next sibling. A followed link to a directory that the walk is inside
of is reported as a loop and not entered, so the walk ends whatever the links are: a link opens a
directory that was not open, and between links the walk goes down. -/
def walkEntries (tree : FileTree) (follow : Bool) (here : OpenDirectory)
    (above : List OpenDirectory) : List (Name × Node) → List Visit
  | [] => []
  | (name, .file _) :: rest =>
    .file (here.path.join ⟨name⟩) :: walkEntries tree follow here above rest
  | (name, .directory entries) :: rest =>
    let inner := here.inner name
    let visits :=
      if pathLimit < inner.path.bytes.length then
        [.failed ⟨inner.path, .unreachable .nameTooLong⟩]
      else walkEntries tree follow inner (here :: above) entries
    visits ++ walkEntries tree follow here above rest
  | (name, .link _) :: rest =>
    let path := here.path.join ⟨name⟩
    let visits :=
      if follow then
        match tree.locate path with
        | .error fault => [.failed ⟨path, .unreachable fault⟩]
        | .ok location =>
          match _found : tree.root.at? location with
          | some (.directory entries) =>
            match _open : (here :: above).find? (·.location = location) with
            | some ancestor => [.failed ⟨path, .loop ancestor.path⟩]
            | none => walkEntries tree follow ⟨location, path⟩ (here :: above) entries
          | some (.file _) => [.file path]
          | _ => []
      else []
    visits ++ walkEntries tree follow here above rest
termination_by entries => (tree.unopened (here :: above), sizeOf entries)
decreasing_by
  · exact Prod.Lex.right _ (by simp only [List.cons.sizeOf_spec, Prod.mk.sizeOf_spec]; omega)
  · rcases Nat.lt_or_eq_of_le (unopened_cons_le tree (here.inner name) (here :: above)) with
      less | same
    · exact Prod.Lex.left _ _ less
    · rw [same]
      exact Prod.Lex.right _ (by simp; omega)
  · exact Prod.Lex.right _ (by simp only [List.cons.sizeOf_spec, Prod.mk.sizeOf_spec]; omega)
  · refine Prod.Lex.left _ _ (unopened_cons_lt tree _found ?_)
    simpa using List.find?_eq_none.1 _open
  · exact Prod.Lex.right _ (by simp only [List.cons.sizeOf_spec, Prod.mk.sizeOf_spec]; omega)

end CodeInventory.FileTree
