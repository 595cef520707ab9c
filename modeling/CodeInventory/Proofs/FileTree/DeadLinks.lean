import CodeInventory.Proofs.FileTree.Growth
import CodeInventory.Proofs.FileTree.Iteration
import CodeInventory.Proofs.FileTree.Trails
import Mathlib.Logic.Relation

namespace CodeInventory.FileTree

open CodeInventory.Path CodeInventory.Text

/-- One step of following segments from a directory. A link stands for its target. -/
inductive Onward (tree : FileTree) : Location × List Bytes → Location × List Bytes → Prop where
  | idle {here segment rest} (idle : isIdle segment = true) :
      Onward tree (here, segment :: rest) (here, rest)
  | up {here rest} : Onward tree (here, dots :: rest) (here.dropLast, rest)
  | directory {here segment rest} (looked : LookedUp .target segment rest)
      (found : tree.kindAt? (here ++ [segment]) = some .directory) :
      Onward tree (here, segment :: rest) (here ++ [segment], rest)
  | link {here segment rest target} (looked : LookedUp .target segment rest)
      (found : tree.kindAt? (here ++ [segment]) = some (.link target)) :
      Onward tree (here, segment :: rest) (origin target here, segmentsOf target.bytes ++ rest)

def LeadsBack (tree : FileTree) (here : Location) (name : Name) (target : Path) : Prop :=
  ∃ rest, Relation.ReflTransGen (Onward tree) (origin target here, segmentsOf target.bytes)
    (here, name :: rest)

variable {tree : FileTree} {links : Nat} {here : Location} {name : Name} {target : Path}
  {place : Place} {rest : List Bytes}

theorem descend_link (looked : LookedUp .target name rest)
    (found : tree.kindAt? (here ++ [name]) = some (.link target))
    (reached : descend tree .target links here (name :: rest) = .ok place) :
    ∃ fewer < links, descend tree .target fewer (origin target here)
      (segmentsOf target.bytes ++ rest) = .ok place := by
  rw [descend_lookedUp looked, kindAt?_link.1 found] at reached
  simp only [reduceCtorEq, and_false, if_false] at reached
  split at reached
  · cases reached
  · cases links with
    | zero => cases reached
    | succ fewer => exact ⟨fewer, Nat.lt_succ_self fewer, reached⟩

theorem LookedUp.of_target {segment : Bytes} {rest : List Bytes}
    (looked : LookedUp .target segment rest) (more : List Bytes) :
    LookedUp .target segment more := ⟨looked.notIdle, looked.notUp, by simp, looked.short⟩

theorem descend_onward {before after : Location × List Bytes} (onward : Onward tree before after)
    (tail : List Bytes)
    (reached : descend tree .target links before.1 (before.2 ++ tail) = .ok place) :
    ∃ fewer ≤ links, descend tree .target fewer after.1 (after.2 ++ tail) = .ok place := by
  cases onward with
  | idle idle =>
    rw [List.cons_append, descend, if_pos idle] at reached
    exact ⟨links, Nat.le_refl _, reached⟩
  | up =>
    rw [List.cons_append, descend, if_neg (by decide), if_pos rfl] at reached
    exact ⟨links, Nat.le_refl _, reached⟩
  | directory looked found =>
    obtain ⟨entries, there⟩ := kindAt?_directory.1 found
    rw [List.cons_append, descend_lookedUp (looked.of_target _), there] at reached
    exact ⟨links, Nat.le_refl _, reached⟩
  | link looked found =>
    obtain ⟨fewer, less, next⟩ := descend_link (looked.of_target _) found reached
    exact ⟨fewer, Nat.le_of_lt less, by rwa [List.append_assoc]⟩

theorem descend_reaches {before after : Location × List Bytes}
    (reaches : Relation.ReflTransGen (Onward tree) before after) (tail : List Bytes)
    (reached : descend tree .target links before.1 (before.2 ++ tail) = .ok place) :
    ∃ fewer ≤ links, descend tree .target fewer after.1 (after.2 ++ tail) = .ok place := by
  induction reaches with
  | refl => exact ⟨links, Nat.le_refl _, reached⟩
  | tail _ onward ih =>
    obtain ⟨fewer, less, there⟩ := ih
    obtain ⟨fewest, least, beyond⟩ := descend_onward onward tail there
    exact ⟨fewest, Nat.le_trans least less, beyond⟩

/-- Each time the target comes back to the link there are fewer links that may be followed. -/
theorem not_descend_of_leadsBack (valid : NameValid name)
    (found : tree.kindAt? (here ++ [name]) = some (.link target))
    (back : LeadsBack tree here name target) (links : Nat) :
    ∀ tail place, descend tree .target links here (name :: tail) ≠ .ok place := by
  obtain ⟨rest, reaches⟩ := back
  induction links using Nat.strong_induction_on with
  | _ links ih =>
    intro tail place reached
    by_cases long : nameLimit < name.length
    · simp [descend, valid.not_idle, valid.notUp, long] at reached
    · have looked : LookedUp .target name tail :=
        ⟨by simp [valid.not_idle], valid.notUp, by simp, long⟩
      obtain ⟨fewer, less, next⟩ := descend_link looked found reached
      obtain ⟨fewest, least, again⟩ := descend_reaches reaches tail next
      exact ih fewest (Nat.lt_of_le_of_lt least less) (rest ++ tail) place again

theorem Leads.occupied_there {segments : List Bytes} {location : Location}
    (leads : Leads tree .target links here segments (.occupied location))
    (start : tree.kindAt? here = some .directory) : ∃ kind, tree.kindAt? location = some kind := by
  generalize same : Place.occupied location = place at leads
  induction leads with
  | arrived links here =>
    cases same
    exact ⟨_, start⟩
  | idle idle next ih => exact ih start same
  | up next ih => exact ih (directory_dropLast start) same
  | directory looked found next ih => exact ih found same
  | free looked missing => cases same
  | file looked found =>
    cases same
    exact ⟨_, found⟩
  | entry looked found last => cases last
  | link looked found followed nonempty next ih => exact ih (directory_origin _ start) same

theorem descend_past {start names : Location} (valid : ∀ name ∈ names, NameValid name)
    (directory : tree.kindAt? (start ++ names) = some .directory)
    (reached : descend tree .target links start (names ++ rest) = .ok place) :
    descend tree .target links (start ++ names) rest = .ok place := by
  induction names generalizing start with
  | nil => simpa using reached
  | cons name more ih =>
    obtain ⟨first, others⟩ := List.forall_mem_cons.1 valid
    have split : start ++ name :: more = (start ++ [name]) ++ more := by simp
    rw [split] at directory ⊢
    have found : tree.kindAt? (start ++ [name]) = some .directory := by
      by_cases last : more = []
      · simpa [last] using directory
      · exact directory_above directory last
    obtain ⟨entries, there⟩ := kindAt?_directory.1 found
    by_cases long : nameLimit < name.length
    · simp [descend, first.not_idle, first.notUp, long] at reached
    · rw [List.cons_append, descend_lookedUp ⟨by simp [first.not_idle], first.notUp, by simp, long⟩,
        there] at reached
      exact ih others directory reached

/-- The path of an open directory: one that leads to a directory, and names from there. -/
structure Grounded (tree : FileTree) (here : OpenDirectory) (base : Path) (start names : Location) :
    Prop where
  located : tree.locate base = .ok start
  valid : ∀ name ∈ names, NameValid name
  path : here.path = pathBelow base names
  location : here.location = start ++ names
  directory : tree.kindAt? here.location = some .directory

theorem OpenedInTurn.grounded {tree : SoundTree} {location : Location} {root : Path}
    {opened : List OpenDirectory} {entries : Entries} (reached : tree.locate root = .ok location)
    (directory : tree.root.at? location = some (.directory entries))
    (turns : OpenedInTurn tree location root opened) :
    ∀ here ∈ opened, ∃ base start names, Grounded tree here base start names := by
  induction turns with
  | start =>
    refine List.forall_mem_singleton.2 ⟨root, location, [], reached, by simp, rfl, by simp, ?_⟩
    exact kindAt?_of_at? directory
  | @inner here above name inside before found ih =>
    refine List.forall_mem_cons.2 ⟨?_, ih⟩
    obtain ⟨base, start, names, grounded⟩ := ih here (.head _)
    refine ⟨base, start, names ++ [name], grounded.located, ?_, ?_, ?_, kindAt?_of_at? found⟩
    · refine List.forall_mem_append.2 ⟨grounded.valid, fun part last => ?_⟩
      exact valid_of_at? tree.wellFormed found part (List.mem_append_right _ last)
    · rw [pathBelow_concat, ← grounded.path]
      rfl
    · rw [OpenDirectory.inner, grounded.location, List.append_assoc]
  | link before found located directory closed ih =>
    refine List.forall_mem_cons.2 ⟨?_, ih⟩
    exact ⟨_, _, [], located, by simp, rfl, by simp, kindAt?_of_at? directory⟩

section Grounded

variable {opened : OpenDirectory} {base : Path} {start names location : Location}

theorem Grounded.descends (grounded : Grounded tree opened base start names)
    (valid : NameValid name)
    (reached : tree.locate (opened.path.join ⟨name⟩) = .ok location) :
    ∃ left, descend tree .target left opened.location [name] = .ok (.occupied location) := by
  obtain ⟨nonempty, _, _, leads⟩ := locate_eq_ok grounded.located
  have path : opened.path.join ⟨name⟩ = pathBelow base (names ++ [name]) := by
    rw [pathBelow_concat, ← grounded.path]
  have validAll : ∀ part ∈ names ++ [name], NameValid part :=
    List.forall_mem_append.2 ⟨grounded.valid, List.forall_mem_singleton.2 valid⟩
  have directory := grounded.directory
  rw [grounded.location] at directory ⊢
  obtain ⟨entries, there⟩ : ∃ entries, tree.root.at? start = some (.directory entries) := by
    by_cases top : names = []
    · exact kindAt?_directory.1 (by simpa [top] using directory)
    · exact kindAt?_directory.1 (directory_above directory top)
  obtain ⟨before, blank, segments, blanks, below⟩ :=
    segmentsOf_pathBelow nonempty (by simp) validAll
  rw [segments] at leads
  obtain ⟨left, through⟩ := descend_through blanks leads there (names ++ [name])
  have followed := (locate_eq_ok reached).2.2.2
  rw [path, below, origin, isAbsolute_pathBelow nonempty validAll, ← origin, through] at followed
  exact ⟨left, descend_past grounded.valid directory followed⟩

theorem Grounded.dead_link (grounded : Grounded tree opened base start names)
    (valid : NameValid name)
    (found : tree.kindAt? (opened.location ++ [name]) = some (.link target))
    (dead : tree.pathExists (opened.path.join ⟨name⟩) = false ∨
      LeadsBack tree opened.location name target) :
    ∃ fault, tree.locate (opened.path.join ⟨name⟩) = .error fault := by
  cases located : tree.locate (opened.path.join ⟨name⟩) with
  | error fault => exact ⟨fault, rfl⟩
  | ok location =>
    obtain ⟨left, reached⟩ := grounded.descends valid located
    rcases dead with missing | back
    · obtain ⟨kind, there⟩ := (leads_of_descend reached).occupied_there grounded.directory
      obtain ⟨node, present, _⟩ := kindAt?_eq_some there
      simp [pathExists, nodeAt?, located, present] at missing
    · exact absurd reached (not_descend_of_leadsBack valid found back left [] _)

end Grounded

end CodeInventory.FileTree
