import CodeInventory.Path

namespace CodeInventory.FileTree

open CodeInventory.Text

abbrev Name := Bytes

/-- The names from the top down, passing through directories only. -/
abbrev Location := List Name

inductive Node where
  | file (content : Bytes)
  | link (target : Path)
  | directory (entries : List (Name × Node))

abbrev Entries := List (Name × Node)

namespace Entries

def get? (name : Name) : Entries → Option Node
  | [] => none
  | (other, node) :: rest => if other = name then some node else get? name rest

def put (name : Name) (node : Node) : Entries → Entries
  | [] => [(name, node)]
  | (other, old) :: rest =>
    if other = name then (name, node) :: rest
    else if name < other then (name, node) :: (other, old) :: rest
    else (other, old) :: put name node rest

def erase (name : Name) (entries : Entries) : Entries := entries.filter fun entry => entry.1 ≠ name

end Entries

namespace Node

def child? (name : Name) : Node → Option Node
  | directory entries => Entries.get? name entries
  | _ => none

def at? : Location → Node → Option Node
  | [], node => some node
  | name :: rest, node => (node.child? name).bind (at? rest)

/-- Puts a node at a location whose directories exist; otherwise nothing changes. -/
def place (new : Node) : Location → Node → Node
  | [], _ => new
  | [name], directory entries => directory (Entries.put name new entries)
  | name :: rest, directory entries =>
    match Entries.get? name entries with
    | some old => directory (Entries.put name (place new rest old) entries)
    | none => directory entries
  | _, old => old

def erase : Location → Node → Node
  | [name], directory entries => directory (Entries.erase name entries)
  | name :: rest, directory entries =>
    match Entries.get? name entries with
    | some old => directory (Entries.put name (erase rest old) entries)
    | none => directory entries
  | _, old => old

end Node

mutual

def Node.directories : Node → List Location
  | .file _ => []
  | .link _ => []
  | .directory entries => [] :: directoriesIn entries

def directoriesIn : List (Name × Node) → List Location
  | [] => []
  | (name, node) :: rest => node.directories.map (name :: ·) ++ directoriesIn rest

end

theorem mem_directoriesIn {name : Name} {location : Location} {entries : Entries} {node : Node}
    (found : Entries.get? name entries = some node) (member : location ∈ node.directories) :
    name :: location ∈ directoriesIn entries := by
  induction entries with
  | nil => simp [Entries.get?] at found
  | cons entry rest ih =>
    obtain ⟨other, old⟩ := entry
    simp only [Entries.get?] at found
    rw [directoriesIn, List.mem_append]
    split at found
    · rename_i same
      cases found
      exact .inl (List.mem_map.2 ⟨location, member, by rw [same]⟩)
    · exact .inr (ih found)

theorem mem_directories {location : Location} {node : Node} {entries : Entries}
    (found : node.at? location = some (.directory entries)) : location ∈ node.directories := by
  induction location generalizing node with
  | nil =>
    simp only [Node.at?, Option.some.injEq] at found
    simp [found, Node.directories]
  | cons name rest ih =>
    obtain ⟨child, here, below⟩ := Option.bind_eq_some_iff.1 found
    cases node with
    | file content => simp [Node.child?] at here
    | link target => simp [Node.child?] at here
    | directory inside =>
      rw [Node.directories]
      exact List.mem_cons_of_mem _ (mem_directoriesIn here (ih below))

end CodeInventory.FileTree

namespace CodeInventory

/-- A tree with the location that relative paths start from. -/
structure FileTree where
  root : FileTree.Node
  workingDirectory : FileTree.Location

end CodeInventory
