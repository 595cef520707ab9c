import CodeInventory.Proofs.FileTree.Trails
import CodeInventory.Proofs.FileTree.Visits
import Mathlib.Data.List.Basic

namespace CodeInventory.FileTree

open CodeInventory.Path CodeInventory.Text

variable {path : Path} {visit : Visit} {entries : Entries}

def Node.sight (path : Path) : Node → Option Visit
  | .file _ => some (.file path)
  | .link _ => none
  | .directory _ =>
    if pathLimit < path.bytes.length then some (.failed ⟨path, .unreachable .nameTooLong⟩) else none

def Opens (path : Path) : Location → Prop
  | [] => True
  | name :: rest => path.bytes.length ≤ pathLimit ∧ Opens (path.join ⟨name⟩) rest

/-- Paths grow on the way down, so only the last directory matters. -/
theorem opens_iff {names : Location} (valid : ∀ name ∈ names, NameValid name)
    (deeper : names ≠ []) :
    Opens path names ↔ (pathBelow path names.dropLast).bytes.length ≤ pathLimit := by
  induction names generalizing path with
  | nil => exact absurd rfl deeper
  | cons name rest ih =>
    obtain ⟨first, others⟩ := List.forall_mem_cons.1 valid
    cases rest with
    | nil => simp [Opens, pathBelow]
    | cons next more =>
      have split : (name :: next :: more).dropLast = name :: (next :: more).dropLast := rfl
      rw [Opens, ih others (by simp), split, pathBelow]
      refine and_iff_right_of_imp fun fits => ?_
      have lower : ∀ part ∈ (next :: more).dropLast, NameValid part := fun part member =>
        others part (List.dropLast_subset _ member)
      calc path.bytes.length
          ≤ (path.join ⟨name⟩).bytes.length := Nat.le_of_lt (length_lt_join first)
        _ ≤ (pathBelow (path.join ⟨name⟩) (next :: more).dropLast).bytes.length :=
            length_le_pathBelow _ lower
        _ ≤ pathLimit := fits

theorem mem_visitsIn : visit ∈ visitsIn path entries ↔
    ∃ entry ∈ entries, visit ∈ entry.2.visits (path.join ⟨entry.1⟩) := by
  induction entries with
  | nil => simp [visitsIn]
  | cons entry rest ih =>
    obtain ⟨name, node⟩ := entry
    simp [visitsIn, ih]

theorem at?_of_leaf {node found : Node} {names : Location} (leaf : ∀ name, node.child? name = none)
    (there : node.at? names = some found) : names = [] ∧ found = node := by
  cases names with
  | nil => exact ⟨rfl, (Option.some.inj there).symm⟩
  | cons name rest => simp [Node.at?, leaf] at there

theorem mem_visits_iff {node : Node} (wellFormed : node.WellFormed) :
    visit ∈ node.visits path ↔ ∃ names found, node.at? names = some found ∧ Opens path names ∧
      found.sight (pathBelow path names) = some visit := by
  induction wellFormed generalizing path with
  | file content =>
    rw [Node.visits, List.mem_singleton]
    constructor
    · rintro rfl
      exact ⟨[], _, rfl, trivial, rfl⟩
    · rintro ⟨names, found, there, _, sight⟩
      obtain ⟨rfl, rfl⟩ := at?_of_leaf (fun _ => rfl) there
      cases sight
      rfl
  | link target =>
    refine iff_of_false (List.not_mem_nil) ?_
    rintro ⟨names, found, there, _, sight⟩
    obtain ⟨rfl, rfl⟩ := at?_of_leaf (fun _ => rfl) there
    cases sight
  | directory entries ordered inner ih =>
    rw [Node.visits]
    by_cases long : pathLimit < path.bytes.length
    · rw [if_pos long, List.mem_singleton]
      constructor
      · rintro rfl
        exact ⟨[], _, rfl, trivial, if_pos long⟩
      · rintro ⟨names, found, there, opens, sight⟩
        cases names with
        | nil =>
          cases there
          rw [Node.sight, pathBelow, if_pos long] at sight
          exact (Option.some.inj sight).symm
        | cons name rest => exact absurd opens.1 (Nat.not_le.2 long)
    · rw [if_neg long, mem_visitsIn]
      constructor
      · rintro ⟨⟨name, node⟩, member, visited⟩
        obtain ⟨names, found, there, opens, sight⟩ := (ih _ member).1 visited
        refine ⟨name :: names, found, ?_, ⟨Nat.le_of_not_lt long, opens⟩, sight⟩
        rw [Node.at?, Node.child?, get?_of_mem ordered member]
        exact there
      · rintro ⟨names, found, there, opens, sight⟩
        cases names with
        | nil =>
          cases there
          rw [Node.sight, pathBelow, if_neg long] at sight
          cases sight
        | cons name rest =>
          obtain ⟨child, here, below⟩ := Option.bind_eq_some_iff.1 there
          have member := mem_of_get? here
          exact ⟨_, member, (ih _ member).2 ⟨rest, found, below, opens.2, sight⟩⟩

theorem exists_increasing {β : Type} {keep : Visit → Option β} {label : β → Path}
    (agree : ∀ visit kept, keep visit = some kept → label kept = visit.path) {tree : SoundTree}
    {here : OpenDirectory} (remaining : Remaining tree here entries)
    (follow : Bool) (above : List OpenDirectory) :
    ∃ list : List Location,
      ((tree.walkEntries follow here above entries).filterMap keep).map label =
        list.map (pathBelow here.path) ∧
      list.Pairwise (· < ·) ∧
      ∀ names ∈ list, names ≠ [] ∧ ∀ name ∈ names, NameValid name := by
  obtain ⟨trail, same, holds⟩ := exists_valid_trail remaining follow above
  refine ⟨trail.filterMap fun seen => (keep seen.2).map fun _ => seen.1, ?_, ?_, ?_⟩
  · rw [← same, List.filterMap_map, List.map_filterMap, List.map_filterMap]
    refine List.filterMap_congr fun seen member => ?_
    cases kept : keep seen.2 with
    | none => simp [kept]
    | some value => simp [kept, agree _ _ kept, holds.named seen member]
  · refine holds.apart.filterMap _ fun a b apart first isFirst second isSecond => ?_
    obtain ⟨_, _, rfl⟩ := Option.map_eq_some_iff.1 isFirst
    obtain ⟨_, _, rfl⟩ := Option.map_eq_some_iff.1 isSecond
    exact apart.1
  · intro names member
    obtain ⟨seen, inside, isNames⟩ := List.mem_filterMap.1 member
    obtain ⟨_, _, rfl⟩ := Option.map_eq_some_iff.1 isNames
    obtain ⟨name, below, starts, _⟩ := holds.starts seen inside
    exact ⟨by simp [starts], holds.valid seen inside⟩

end CodeInventory.FileTree
