import CodeInventory.Proofs.FileTree.Encounters
import Mathlib.Logic.Function.Iterate

namespace CodeInventory.FileTree

open CodeInventory.Path CodeInventory.Text

variable {tree : FileTree} {follow : Bool} {here : OpenDirectory} {above : List OpenDirectory}
  {entries : Entries} {root : Path} {location : Location}

structure Level where
  directory : OpenDirectory
  pending : Entries

structure Progress where
  visited : List Visit
  agenda : List Level

def advance (tree : FileTree) (follow : Bool) : Progress → Progress
  | ⟨visited, []⟩ => ⟨visited, []⟩
  | ⟨visited, ⟨_, []⟩ :: outer⟩ => ⟨visited, outer⟩
  | ⟨visited, ⟨here, (name, node) :: rest⟩ :: outer⟩ =>
    match encounter tree follow here (outer.map (·.directory)) name node with
    | .passed visit => ⟨visited ++ visit.toList, ⟨here, rest⟩ :: outer⟩
    | .entered directory inside => ⟨visited, ⟨directory, inside⟩ :: ⟨here, rest⟩ :: outer⟩

def Progress.start (location : Location) (root : Path) (entries : Entries) : Progress :=
  ⟨[], [⟨⟨location, root⟩, entries⟩]⟩

/-- From any state the innermost directory is walked to its end and closed. -/
theorem advance_through {tree : SoundTree} (remaining : Remaining tree here entries)
    (follow : Bool) (above : List OpenDirectory) :
    ∀ visited outer, outer.map (·.directory) = above →
      ∃ count, (advance tree follow)^[count] ⟨visited, ⟨here, entries⟩ :: outer⟩ =
        ⟨visited ++ tree.walkEntries follow here above entries, outer⟩ := by
  refine walk_induction (motive := fun here above entries => ∀ visited outer,
    outer.map (·.directory) = above →
      ∃ count, (advance tree follow)^[count] ⟨visited, ⟨here, entries⟩ :: outer⟩ =
        ⟨visited ++ tree.walkEntries follow here above entries, outer⟩)
    follow ?_ ?_ ?_ remaining above
  · intro here above visited outer _
    refine ⟨1, ?_⟩
    rw [walkEntries, List.append_nil]
    rfl
  · rintro here _ name node rest visit _ passes later visited outer rfl
    obtain ⟨count, done⟩ := later (visited ++ visit.toList) outer rfl
    refine ⟨count + 1, ?_⟩
    rw [Function.iterate_succ_apply, advance, passes, done, walkEntries_cons, passes,
      List.append_assoc]
    rfl
  · rintro here _ name node rest directory inside _ enters below later visited outer rfl
    obtain ⟨inner, doneInner⟩ := below visited (⟨here, rest⟩ :: outer) rfl
    obtain ⟨count, done⟩ := later (visited ++
      tree.walkEntries follow directory (here :: outer.map (·.directory)) inside) outer rfl
    refine ⟨count + inner + 1, ?_⟩
    rw [Function.iterate_succ_apply, advance, enters, Function.iterate_add_apply, doneInner, done,
      walkEntries_cons, enters, List.append_assoc]
    rfl

theorem advance_ends {tree : SoundTree} (follow : Bool)
    (directory : tree.root.at? location = some (.directory entries)) :
    ∃ count, (advance tree follow)^[count] (.start location root entries) =
      ⟨tree.walkEntries follow ⟨location, root⟩ [] entries, []⟩ :=
  advance_through (.all directory) follow [] [] [] rfl

theorem visited_prefix_advance (progress : Progress) :
    progress.visited <+: (advance tree follow progress).visited := by
  obtain ⟨visited, agenda⟩ := progress
  match agenda with
  | [] => exact List.prefix_rfl
  | ⟨here, []⟩ :: outer => exact List.prefix_rfl
  | ⟨here, (name, node) :: rest⟩ :: outer =>
    rw [advance]
    split
    · exact List.prefix_append ..
    · exact List.prefix_rfl

theorem visited_prefix_iterate (progress : Progress) (count : Nat) :
    progress.visited <+: ((advance tree follow)^[count] progress).visited := by
  induction count generalizing progress with
  | zero => exact List.prefix_rfl
  | succ count ih => exact (visited_prefix_advance progress).trans (ih _)

theorem iterate_advance_ended (visited : List Visit) (count : Nat) :
    (advance tree follow)^[count] ⟨visited, []⟩ = ⟨visited, []⟩ :=
  Function.iterate_fixed rfl count

/-- At no time has anything been visited that is not visited in the end. -/
theorem visited_prefix_walk {tree : SoundTree}
    (directory : tree.root.at? location = some (.directory entries)) (count : Nat) :
    ((advance tree follow)^[count] (.start location root entries)).visited <+:
      tree.walkEntries follow ⟨location, root⟩ [] entries := by
  obtain ⟨total, ends⟩ := @advance_ends entries root location tree follow directory
  have later := @visited_prefix_iterate tree follow
    ((advance tree follow)^[count] (.start location root entries)) total
  rwa [← Function.iterate_add_apply, Nat.add_comm, Function.iterate_add_apply, ends,
    iterate_advance_ended] at later

/-- How the open directories were entered, the innermost last: as entries of the one around them,
or by a link to a directory that was not open. -/
inductive OpenedInTurn (tree : FileTree) (location : Location) (root : Path) :
    List OpenDirectory → Prop where
  | start : OpenedInTurn tree location root [⟨location, root⟩]
  | inner {here : OpenDirectory} {above : List OpenDirectory} {name : Name} {inside : Entries}
      (before : OpenedInTurn tree location root (here :: above))
      (found : tree.root.at? (here.location ++ [name]) = some (.directory inside)) :
      OpenedInTurn tree location root (here.inner name :: here :: above)
  | link {here : OpenDirectory} {above : List OpenDirectory} {name : Name} {target : Path}
      {place : Location} {inside : Entries}
      (before : OpenedInTurn tree location root (here :: above))
      (found : tree.root.at? (here.location ++ [name]) = some (.link target))
      (located : tree.locate (here.path.join ⟨name⟩) = .ok place)
      (directory : tree.root.at? place = some (.directory inside))
      (closed : ∀ other ∈ here :: above, other.location ≠ place) :
      OpenedInTurn tree location root (⟨place, here.path.join ⟨name⟩⟩ :: here :: above)

/-- What holds of a walk at all times: its directories were opened in turn, and what is left to do
in each of them are its last entries. -/
structure UnderWay (tree : FileTree) (location : Location) (root : Path) (agenda : List Level) :
    Prop where
  opened : agenda = [] ∨ OpenedInTurn tree location root (agenda.map (·.directory))
  remaining : ∀ level ∈ agenda, Remaining tree level.directory level.pending

theorem OpenedInTurn.outer {outer : List OpenDirectory}
    (opened : OpenedInTurn tree location root (here :: outer)) :
    outer = [] ∨ OpenedInTurn tree location root outer := by
  cases opened with
  | start => exact .inl rfl
  | inner before found => exact .inr before
  | link before found located directory closed => exact .inr before

theorem UnderWay.advance {tree : SoundTree} {progress : Progress}
    (underWay : UnderWay tree location root progress.agenda) :
    UnderWay tree location root (advance tree follow progress).agenda := by
  obtain ⟨visited, agenda⟩ := progress
  match agenda with
  | [] => exact underWay
  | ⟨here, []⟩ :: outer =>
    have opened := underWay.opened.resolve_left (by simp)
    refine ⟨?_, (List.forall_mem_cons.1 underWay.remaining).2⟩
    exact opened.outer.imp_left List.map_eq_nil_iff.1
  | ⟨here, (name, node) :: rest⟩ :: outer =>
    have opened := underWay.opened.resolve_left (by simp)
    obtain ⟨remaining, others⟩ := List.forall_mem_cons.1 underWay.remaining
    have entry := remaining.entry
    have left : ∀ level ∈ (⟨here, rest⟩ : Level) :: outer,
        Remaining tree level.directory level.pending :=
      List.forall_mem_cons.2 ⟨remaining.tail, others⟩
    rw [FileTree.advance]
    split
    · exact ⟨.inr opened, left⟩
    · rename_i directory inside enters
      refine ⟨.inr ?_, List.forall_mem_cons.2 ⟨remaining.entered enters, left⟩⟩
      cases entersBy_of_encounter enters with
      | inner same short =>
        rw [List.map_cons, same]
        exact .inner opened entry
      | link target followed located found closed path =>
        obtain ⟨place, reached⟩ := directory
        obtain rfl : reached = here.path.join ⟨name⟩ := path
        exact .link opened entry located found closed

theorem underWay_iterate {tree : SoundTree}
    (directory : tree.root.at? location = some (.directory entries)) (count : Nat) :
    UnderWay tree location root
      ((FileTree.advance tree follow)^[count] (.start location root entries)).agenda := by
  induction count with
  | zero => exact ⟨.inr .start, List.forall_mem_singleton.2 (.all directory)⟩
  | succ count ih =>
    rw [Function.iterate_succ_apply']
    exact ih.advance

end CodeInventory.FileTree
