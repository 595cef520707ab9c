import Mathlib
import CodeInventory.Proofs.FileTree.Leads

namespace CodeInventory.FileTree

open CodeInventory.Path CodeInventory.Text

variable {tree before after : FileTree}

/-- Relative paths start in a directory. -/
def Anchored (tree : FileTree) : Prop := tree.kindAt? tree.workingDirectory = some .directory

def Unlinked (tree : FileTree) : Prop :=
  ∀ location target, tree.kindAt? location ≠ some (.link target)

theorem unlinked_of_all (checked : tree.root.all (·.isLink = false) = true) : tree.Unlinked := by
  intro location target found
  simpa [Node.isLink] using Node.all_at? checked (kindAt?_link.1 found)

def Kind.Like : Kind → Kind → Prop
  | .file _, .file _ => True
  | kind, other => kind = other

theorem Kind.Like.refl (kind : Kind) : kind.Like kind := by
  cases kind with
  | file content => exact True.intro
  | link target => exact rfl
  | directory => exact rfl

structure Grown (before after : FileTree) : Prop where
  home : after.workingDirectory = before.workingDirectory
  kept : ∀ location kind, before.kindAt? location = some kind →
    ∃ now, after.kindAt? location = some now ∧ kind.Like now

theorem Grown.refl (tree : FileTree) : Grown tree tree :=
  ⟨rfl, fun _ kind found => ⟨kind, found, .refl kind⟩⟩

theorem Grown.directory (grown : Grown before after) {location : Location}
    (found : before.kindAt? location = some .directory) :
    after.kindAt? location = some .directory := by
  obtain ⟨now, here, like⟩ := grown.kept location _ found
  cases like
  exact here

theorem Grown.link (grown : Grown before after) {location : Location} {target : Path}
    (found : before.kindAt? location = some (.link target)) :
    after.kindAt? location = some (.link target) := by
  obtain ⟨now, here, like⟩ := grown.kept location _ found
  cases like
  exact here

theorem Grown.file (grown : Grown before after) {location : Location} {content : Bytes}
    (found : before.kindAt? location = some (.file content)) :
    ∃ now, after.kindAt? location = some (.file now) := by
  obtain ⟨now, here, like⟩ := grown.kept location _ found
  cases now with
  | file bytes => exact ⟨bytes, here⟩
  | link target => cases like
  | directory => cases like

theorem Grown.trans {between : FileTree} (first : Grown before between)
    (second : Grown between after) : Grown before after := by
  refine ⟨second.home.trans first.home, ?_⟩
  intro location kind found
  cases kind with
  | file content =>
    obtain ⟨bytes, here⟩ := first.file found
    obtain ⟨now, there⟩ := second.file here
    exact ⟨.file now, there, True.intro⟩
  | link target => exact ⟨.link target, second.link (first.link found), rfl⟩
  | directory => exact ⟨.directory, second.directory (first.directory found), rfl⟩

theorem Grown.anchored (grown : Grown before after) (anchored : before.Anchored) :
    after.Anchored := by
  unfold Anchored
  rw [grown.home]
  exact grown.directory anchored

/-- The tree can take `node` under that name: a new directory, or a file, new or in place of one. -/
structure Admits (tree : FileTree) (directory : Location) (name : Name) (node : Node) : Prop where
  home : tree.kindAt? directory = some .directory
  valid : NameValid name
  change : (node = .directory [] ∧ tree.kindAt? (directory ++ [name]) = none) ∨
    ∃ content, node = .file content ∧ (tree.kindAt? (directory ++ [name]) = none ∨
      ∃ old, tree.kindAt? (directory ++ [name]) = some (.file old))

section Admits

variable {directory : Location} {name : Name} {node : Node}

theorem Admits.leaf (admits : tree.Admits directory name node) (inner : Name) :
    node.child? inner = none := by
  rcases admits.change with ⟨rfl, _⟩ | ⟨content, rfl, _⟩ <;> rfl

theorem Admits.wellFormed_node (admits : tree.Admits directory name node) : node.WellFormed := by
  rcases admits.change with ⟨rfl, _⟩ | ⟨content, rfl, _⟩
  · exact .directory [] (by decide) (by simp)
  · exact .file content

theorem Admits.bare (admits : tree.Admits directory name node) :
    tree.kindAt? (directory ++ [name]) = none ∨
      ∃ old, tree.kindAt? (directory ++ [name]) = some (.file old) := by
  rcases admits.change with ⟨_, free⟩ | ⟨_, _, free⟩
  · exact .inl free
  · exact free

theorem Admits.not_directory (admits : tree.Admits directory name node) :
    tree.kindAt? (directory ++ [name]) ≠ some .directory := by
  rcases admits.bare with free | ⟨old, file⟩
  · simp [free]
  · simp [file]

theorem Admits.kindAt?_put (admits : tree.Admits directory name node) (other : Location) :
    (tree.put (directory ++ [name]) node).kindAt? other =
      if other = directory ++ [name] then some node.kind else tree.kindAt? other := by
  refine kind_at?_place admits.home ?_ admits.leaf
  intro old found
  rcases admits.bare with none | ⟨content, file⟩
  · rw [kindAt?_eq_none.1 none] at found
    cases found
  · rw [kindAt?_file.1 file] at found
    cases found
    exact fun _ => rfl

theorem Admits.at?_put_self (admits : tree.Admits directory name node) :
    (tree.put (directory ++ [name]) node).root.at? (directory ++ [name]) = some node := by
  obtain ⟨entries, home⟩ := kindAt?_directory.1 admits.home
  have above := at?_place_above node tree.root directory (List.cons_ne_nil name [])
  rw [at?_append, put, above, home]
  simp [Node.place, Node.at?, Node.child?, get?_put_self]

theorem Admits.grown (admits : tree.Admits directory name node) :
    Grown tree (tree.put (directory ++ [name]) node) := by
  refine ⟨rfl, fun location kind found => ?_⟩
  rw [admits.kindAt?_put]
  split
  · rename_i same
    refine ⟨node.kind, rfl, ?_⟩
    subst same
    rcases admits.change with ⟨_, none⟩ | ⟨content, rfl, none | ⟨old, file⟩⟩
    · rw [none] at found
      cases found
    · rw [none] at found
      cases found
    · rw [file] at found
      cases found
      exact True.intro
  · exact ⟨kind, found, .refl kind⟩

theorem Admits.wellFormed (admits : tree.Admits directory name node)
    (wellFormed : tree.WellFormed) : (tree.put (directory ++ [name]) node).WellFormed := by
  refine Node.WellFormed.place wellFormed admits.wellFormed_node fun last ends => ?_
  rw [List.getLast?_append] at ends
  cases ends
  exact admits.valid

theorem Admits.unlinked (admits : tree.Admits directory name node) (unlinked : tree.Unlinked) :
    (tree.put (directory ++ [name]) node).Unlinked := by
  intro location target
  rw [admits.kindAt?_put]
  split
  · rcases admits.change with ⟨rfl, _⟩ | ⟨content, rfl, _⟩ <;> simp [Node.kind]
  · exact unlinked location target

end Admits

/-- A place in a tree that has grown; a free name may have been given since. -/
def Place.within (tree : FileTree) : Place → Place
  | .occupied location => .occupied location
  | .free directory name =>
    if (tree.kindAt? (directory ++ [name])).isSome then .occupied (directory ++ [name])
    else .free directory name

theorem Leads.grown (grown : Grown before after) {purpose : Purpose} {links : Nat}
    {here : Location} {segments : List Bytes} {place : Place}
    (leads : Leads before purpose links here segments place)
    (unlinked : ∀ directory name target, place = .free directory name →
      after.kindAt? (directory ++ [name]) ≠ some (.link target)) :
    Leads after purpose links here segments (place.within after) := by
  induction leads with
  | arrived links here => exact .arrived links here
  | idle idle next ih => exact .idle idle (ih unlinked)
  | up next ih => exact .up (ih unlinked)
  | directory looked found next ih =>
    exact .directory looked (grown.directory found) (ih unlinked)
  | @free links here segment looked missing =>
    -- the name may have been given since, to a directory or to a file
    rw [Place.within]
    cases now : after.kindAt? (here ++ [segment]) with
    | none => exact .free looked now
    | some kind =>
      cases kind with
      | file content => exact .file looked now
      | link target => exact absurd now (unlinked here segment target rfl)
      | directory => exact .directory looked now (.arrived links _)
  | file looked found =>
    obtain ⟨now, there⟩ := grown.file found
    exact .file looked there
  | entry looked found last => exact .entry looked (grown.link found) last
  | link looked found followed nonempty next ih =>
    exact .link looked (grown.link found) followed nonempty (ih unlinked)

theorem Leads.occupied_grown (grown : Grown before after) {purpose : Purpose} {links : Nat}
    {here location : Location} {segments : List Bytes}
    (leads : Leads before purpose links here segments (.occupied location)) :
    Leads after purpose links here segments (.occupied location) :=
  leads.grown grown (by simp)

theorem Grown.locate (grown : Grown before after) {path : Path} {location : Location}
    (reached : before.locate path = .ok location) : after.locate path = .ok location := by
  obtain ⟨usable, leads⟩ := locate_ok_iff.1 reached
  rw [← grown.home] at leads
  exact locate_ok_iff.2 ⟨usable, leads.occupied_grown grown⟩

theorem Grown.isDirectory (grown : Grown before after) {path : Path}
    (directory : before.isDirectory path = true) : after.isDirectory path = true := by
  obtain ⟨location, reached, kind⟩ := isDirectory_iff.1 directory
  exact isDirectory_iff.2 ⟨location, grown.locate reached, grown.directory kind⟩

end CodeInventory.FileTree

namespace CodeInventory

structure AnchoredTree extends FileTree where
  anchored : toFileTree.Anchored

/-- What a run starts from. A change may also remove the working directory, so `Edit` makes no
further one of these. -/
structure Workspace extends SoundTree, AnchoredTree

instance : Coe AnchoredTree FileTree := ⟨AnchoredTree.toFileTree⟩

instance : Coe Workspace SoundTree := ⟨Workspace.toSoundTree⟩

instance : Coe Workspace AnchoredTree := ⟨Workspace.toAnchoredTree⟩

def oneSourceProject : Workspace where
  toSoundTree := .ofEdits
    [.makeDirectories (.ofString "src"),
      .writeFile (.ofString "src/a.ts") (Text.encode "export const x = 1")]
  anchored := by cbv

theorem oneSourceProject_unlinked : oneSourceProject.Unlinked := FileTree.unlinked_of_all (by cbv)

end CodeInventory
