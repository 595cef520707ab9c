import CodeInventory.Proofs.FileTree.WellFormed

namespace CodeInventory

/-- A tree as a file system holds it. Theorems about trees ask for one of these, and every change
of one gives another. -/
structure SoundTree extends FileTree where
  wellFormed : toFileTree.WellFormed

instance : Coe SoundTree FileTree := ⟨SoundTree.toFileTree⟩

inductive FileTree.Edit where
  | makeDirectories (path : Path)
  | writeFile (path : Path) (content : Text.Bytes)
  | makeLink (path target : Path)
  | remove (path : Path)

def FileTree.Edit.apply (tree : FileTree) : Edit → Change
  | makeDirectories path => tree.makeDirectories path
  | writeFile path content => tree.writeFile path content
  | makeLink path target => tree.makeLink path target
  | remove path => tree.remove path

theorem FileTree.WellFormed.edit {tree : FileTree} (wellFormed : tree.WellFormed) (edit : Edit) :
    (edit.apply tree).2.WellFormed := by
  cases edit with
  | makeDirectories path => exact wellFormed.makeDirectories path
  | writeFile path content => exact wellFormed.writeFile path content
  | makeLink path target => exact wellFormed.makeLink path target
  | remove path => exact wellFormed.remove path

namespace SoundTree

def empty : SoundTree where
  root := .directory []
  workingDirectory := []
  wellFormed := .directory [] (by decide) (by simp)

def edit (tree : SoundTree) (edit : FileTree.Edit) : SoundTree where
  toFileTree := (edit.apply tree).2
  wellFormed := tree.wellFormed.edit edit

def ofEdits (edits : List FileTree.Edit) : SoundTree := edits.foldl edit empty

end SoundTree

namespace FileTree

def Node.isLink : Node → Bool
  | .link _ => true
  | _ => false

mutual

def Node.all (test : Node → Bool) : Node → Bool
  | .file content => test (.file content)
  | .link target => test (.link target)
  | .directory entries => test (.directory entries) && allIn test entries

def allIn (test : Node → Bool) : List (Name × Node) → Bool
  | [] => true
  | (_, node) :: rest => node.all test && allIn test rest

end

variable {test : Node → Bool} {node inner : Node}

theorem all_of_mem {entry : Name × Node} {entries : Entries} (checked : allIn test entries = true)
    (member : entry ∈ entries) : entry.2.all test = true := by
  induction entries with
  | nil => cases member
  | cons first rest ih =>
    rw [allIn, Bool.and_eq_true] at checked
    rcases List.mem_cons.1 member with rfl | member
    · exact checked.1
    · exact ih checked.2 member

theorem Node.all_self (checked : node.all test = true) : test node = true := by
  cases node with
  | file content => exact checked
  | link target => exact checked
  | directory entries => exact (Bool.and_eq_true_iff.1 checked).1

theorem Node.all_child {name : Name} (checked : node.all test = true)
    (here : node.child? name = some inner) : inner.all test = true := by
  cases node with
  | file content => cases here
  | link target => cases here
  | directory entries => exact all_of_mem (Bool.and_eq_true_iff.1 checked).2 (mem_of_get? here)

theorem Node.all_at? {location : Location} (checked : node.all test = true)
    (found : node.at? location = some inner) : test inner = true := by
  induction location generalizing node with
  | nil =>
    cases found
    exact all_self checked
  | cons name rest ih =>
    obtain ⟨child, here, below⟩ := Option.bind_eq_some_iff.1 found
    exact ih (all_child checked here) below

end FileTree

end CodeInventory
