import CodeInventory.Proofs.FileTree.Making
import CodeInventory.Proofs.FileTree.Straight

namespace CodeInventory.FileTree

open CodeInventory.Path CodeInventory.Text

variable {tree before after : FileTree} {location home : Location} {made : List Location}
  {base path : Path}

def Creatable (tree : FileTree) (path : Path) : Prop :=
  ∃ made after, Made tree made after ∧ after.isDirectory path = true

theorem creatable_of_makeDirectories (tree : AnchoredTree) {path : Path}
    (trimmed : path.withoutFinalSlashes = path) (nonempty : path.bytes ≠ [])
    (done : (tree.makeDirectories path).1 = .ok ()) : tree.Creatable path := by
  obtain ⟨made, prepared, there⟩ := makeDirectories_prepared tree trimmed
  exact ⟨made, _, prepared.steps, there nonempty done⟩

/-- The paths lead to directories now, and what was made is on the way to those that led nowhere. -/
structure Completed (before : FileTree) (paths : List Path) (made : List Location)
    (after : FileTree) : Prop where
  steps : Made before made after
  directories : ∀ path ∈ paths, after.isDirectory path = true
  needed : ∀ place ∈ made, ∃ path ∈ paths, before.pathExists path = false ∧
    ∃ location, after.locate path = .ok location ∧ place <+: location

theorem directory_at_or_above {upper : Location}
    (directory : tree.kindAt? location = some .directory) (above : upper <+: location) :
    tree.kindAt? upper = some .directory := by
  obtain ⟨below, rfl⟩ := above
  by_cases last : below = []
  · rw [last, List.append_nil] at directory
    exact directory
  · exact directory_above directory last

/-- On the way to the location there are directories and then free names. -/
structure HasRoom (tree : FileTree) (location : Location) : Prop where
  valid : ∀ name ∈ location, NameValid name
  clear : ∀ upper, upper <+: location →
    tree.kindAt? upper = none ∨ tree.kindAt? upper = some .directory

theorem hasRoom_of_made {before : SoundTree} (steps : Made before made after)
    (directory : after.kindAt? location = some .directory) : before.HasRoom location := by
  obtain ⟨entries, there⟩ := kindAt?_directory.1 directory
  refine ⟨valid_of_at? (steps.wellFormed before.wellFormed) there, fun upper above => ?_⟩
  have now := directory_at_or_above directory above
  rw [steps.kindAt?] at now
  split at now
  · rename_i new
    exact .inl (steps.absent upper new)
  · exact .inr now

theorem HasRoom.kept (steps : Made before made after) (room : before.HasRoom location) :
    after.HasRoom location := by
  refine ⟨room.valid, fun upper above => ?_⟩
  rw [steps.kindAt?]
  split
  · exact .inr rfl
  · exact room.clear upper above

theorem HasRoom.admits {name : Name} {names : Location}
    (room : tree.HasRoom (home ++ name :: names)) (start : tree.kindAt? home = some .directory)
    (free : tree.kindAt? (home ++ [name]) = none) : tree.Admits home name (.directory []) :=
  ⟨start, room.valid name (by simp), .inl ⟨rfl, free⟩⟩

theorem HasRoom.exists_made {names : Location} (room : tree.HasRoom (home ++ names))
    (start : tree.kindAt? home = some .directory) :
    ∃ made after, Made tree made after ∧ after.kindAt? (home ++ names) = some .directory ∧
      ∀ place ∈ made, place <+: home ++ names := by
  induction names generalizing tree home with
  | nil =>
    rw [List.append_nil]
    exact ⟨[], tree, .nothing tree, start, by simp⟩
  | cons name names ih =>
    have split : home ++ name :: names = (home ++ [name]) ++ names := by simp
    have above : home ++ [name] <+: home ++ name :: names := split ▸ List.prefix_append _ _
    rcases room.clear _ above with free | directory
    · have admits := room.admits start free
      have step := Made.one admits
      have there := kindAt?_of_at? admits.at?_put_self
      obtain ⟨made, after, steps, directory, onTheWay⟩ := ih (split ▸ room.kept step) there
      rw [split]
      refine ⟨_, after, step.append steps, directory, fun place member => ?_⟩
      rcases List.mem_append.1 member with first | later
      · rw [List.mem_singleton.1 first]
        exact List.prefix_append _ _
      · exact onTheWay place later
    · rw [split] at room ⊢
      exact ih room directory

theorem exists_made_all {locations : List Location} (top : tree.kindAt? [] = some .directory)
    (room : ∀ location ∈ locations, tree.HasRoom location) :
    ∃ made after, Made tree made after ∧
      (∀ location ∈ locations, after.kindAt? location = some .directory) ∧
      ∀ place ∈ made, ∃ location ∈ locations, place <+: location := by
  induction locations generalizing tree with
  | nil => exact ⟨[], tree, .nothing tree, by simp, by simp⟩
  | cons location locations ih =>
    obtain ⟨here, others⟩ := List.forall_mem_cons.1 room
    obtain ⟨first, between, steps, directory, onTheWay⟩ := here.exists_made top
    obtain ⟨second, after, more, directories, onTheWays⟩ :=
      ih (steps.grown.directory top) fun other member => (others other member).kept steps
    refine ⟨first ++ second, after, steps.append more, ?_, fun place member => ?_⟩
    · exact List.forall_mem_cons.2 ⟨more.grown.directory directory, directories⟩
    · rcases List.mem_append.1 member with early | late
      · exact ⟨location, .head _, onTheWay place early⟩
      · obtain ⟨other, known, above⟩ := onTheWays place late
        exact ⟨other, .tail _ known, above⟩

/-- A path that never goes up can be made a directory if there is room at its location. -/
theorem Creatable.straight {tree : SoundTree} (creatable : tree.Creatable (base.join path))
    (unlinked : tree.Unlinked)
    (reached : tree.locate base = .ok home) (directory : tree.kindAt? home = some .directory)
    (plain : dots ∉ segmentsOf path.bytes) :
    Openable base path ∧ tree.HasRoom (straightBelow home path) := by
  obtain ⟨made, after, steps, there⟩ := creatable
  obtain ⟨location, leads, kind⟩ := isDirectory_iff.1 there
  have joined := locate_join_iff (steps.unlinked unlinked) (steps.grown.locate reached)
    (steps.grown.directory directory) plain location
  obtain ⟨openable, rfl, _⟩ := joined.1 ⟨leads, kind⟩
  exact ⟨openable, hasRoom_of_made steps kind⟩

/-- Each path can be made a directory by itself, and one never stands in the way of another, so all
can be made together. -/
theorem exists_completed {tree : SoundTree} {paths : List Path} (unlinked : tree.Unlinked)
    (reached : tree.locate base = .ok home)
    (directory : tree.kindAt? home = some .directory)
    (plain : ∀ path ∈ paths, dots ∉ segmentsOf path.bytes)
    (ready : ∀ path ∈ paths, tree.isDirectory (base.join path) = true ∨
      tree.pathExists (base.join path) = false ∧ tree.Creatable (base.join path)) :
    ∃ made after, Completed tree (paths.map base.join) made after := by
  have straight : ∀ path ∈ paths,
      Openable base path ∧ tree.HasRoom (straightBelow home path) := by
    intro path member
    have creatable : tree.Creatable (base.join path) := by
      rcases ready path member with there | ⟨_, creatable⟩
      · exact ⟨[], tree, .nothing tree, there⟩
      · exact creatable
    exact creatable.straight unlinked reached directory (plain path member)
  have room : ∀ location ∈ paths.map (straightBelow home), tree.HasRoom location :=
    List.forall_mem_map.2 fun path member => (straight path member).2
  obtain ⟨made, after, steps, directories, onTheWay⟩ :=
    exists_made_all (directory_at_or_above directory List.nil_prefix) room
  have leads : ∀ path ∈ paths, after.locate (base.join path) = .ok (straightBelow home path) := by
    intro path member
    have joined := locate_join_iff (steps.unlinked unlinked) (steps.grown.locate reached)
      (steps.grown.directory directory) (plain path member) (straightBelow home path)
    have there := List.forall_mem_map.1 directories path member
    exact (joined.2 ⟨(straight path member).1, rfl, there⟩).1
  refine ⟨made, after, steps, ?_, fun place new => ?_⟩
  · refine List.forall_mem_map.2 fun path member => isDirectory_iff.2 ⟨_, leads path member, ?_⟩
    exact List.forall_mem_map.1 directories path member
  · obtain ⟨_, known, above⟩ := onTheWay place new
    obtain ⟨path, member, rfl⟩ := List.mem_map.1 known
    refine ⟨base.join path, List.mem_map_of_mem member, ?_, _, leads path member, above⟩
    rcases ready path member with there | ⟨missing, _⟩
    · -- nothing is made on the way to a directory
      obtain ⟨location, found, kind⟩ := isDirectory_iff.1 there
      have same := steps.grown.locate found
      rw [leads path member] at same
      cases same
      have old := directory_at_or_above kind above
      rw [steps.absent place new] at old
      cases old
    · exact missing

end CodeInventory.FileTree
