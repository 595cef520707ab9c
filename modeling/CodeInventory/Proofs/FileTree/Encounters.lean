import CodeInventory.FileTree.Walk
import CodeInventory.Proofs.FileTree.Placement

namespace CodeInventory.FileTree

open CodeInventory.Path

variable {tree : FileTree} {follow : Bool} {here : OpenDirectory} {above : List OpenDirectory}
  {name : Name} {node : Node} {entries rest : Entries}

def Visit.path : Visit → Path
  | .file path => path
  | .failed error => error.path

inductive Encounter where
  | passed (visit : Option Visit)
  | entered (directory : OpenDirectory) (entries : Entries)

def encounterTarget (tree : FileTree) (path : Path) (opened : List OpenDirectory)
    (location : Location) : Encounter :=
  match tree.root.at? location with
  | some (.directory entries) =>
    match opened.find? (·.location = location) with
    | some ancestor => .passed (some (.failed ⟨path, .loop ancestor.path⟩))
    | none => .entered ⟨location, path⟩ entries
  | some (.file _) => .passed (some (.file path))
  | _ => .passed none

def encounter (tree : FileTree) (follow : Bool) (here : OpenDirectory)
    (above : List OpenDirectory) (name : Name) : Node → Encounter
  | .file _ => .passed (some (.file (here.path.join ⟨name⟩)))
  | .directory entries =>
    if pathLimit < (here.inner name).path.bytes.length then
      .passed (some (.failed ⟨(here.inner name).path, .unreachable .nameTooLong⟩))
    else .entered (here.inner name) entries
  | .link _ =>
    if follow then
      match tree.locate (here.path.join ⟨name⟩) with
      | .error fault => .passed (some (.failed ⟨here.path.join ⟨name⟩, .unreachable fault⟩))
      | .ok location =>
        encounterTarget tree (here.path.join ⟨name⟩) (here :: above) location
    else .passed none

def Encounter.visits (tree : FileTree) (follow : Bool) (opened : List OpenDirectory) :
    Encounter → List Visit
  | .passed visit => visit.toList
  | .entered directory entries => tree.walkEntries follow directory opened entries

theorem walkEntries_cons (tree : FileTree) (follow : Bool) (here : OpenDirectory)
    (above : List OpenDirectory) (name : Name) (node : Node) (rest : Entries) :
    tree.walkEntries follow here above ((name, node) :: rest) =
      (encounter tree follow here above name node).visits tree follow (here :: above) ++
        tree.walkEntries follow here above rest := by
  cases node with
  | file content => rw [walkEntries, encounter]; rfl
  | directory entries =>
    rw [walkEntries, encounter]
    split <;> rfl
  | link target =>
    rw [walkEntries, encounter]
    cases follow with
    | false => rfl
    | true =>
      simp only [if_true, List.append_cancel_right_eq]
      cases tree.locate (here.path.join ⟨name⟩) with
      | error fault => rfl
      | ok location =>
        simp only [encounterTarget]
        cases tree.root.at? location with
        | none => rfl
        | some found =>
          cases found with
          | file content => rfl
          | link target => rfl
          | directory entries =>
            cases (here :: above).find? (·.location = location) <;> rfl

inductive EntersBy (tree : FileTree) (follow : Bool) (here : OpenDirectory)
    (above : List OpenDirectory) (name : Name) (directory : OpenDirectory) (inside : Entries) :
    Node → Prop where
  | inner (same : directory = here.inner name) (short : directory.path.bytes.length ≤ pathLimit) :
      EntersBy tree follow here above name directory inside (.directory inside)
  | link (target : Path) (followed : follow = true)
      (located : tree.locate (here.path.join ⟨name⟩) = .ok directory.location)
      (found : tree.root.at? directory.location = some (.directory inside))
      (closed : ∀ other ∈ here :: above, other.location ≠ directory.location)
      (path : directory.path = here.path.join ⟨name⟩) :
      EntersBy tree follow here above name directory inside (.link target)

theorem entersBy_of_encounter {directory : OpenDirectory} {inside : Entries}
    (enters : encounter tree follow here above name node = .entered directory inside) :
    EntersBy tree follow here above name directory inside node := by
  cases node with
  | file content => cases enters
  | directory entries =>
    rw [encounter] at enters
    split at enters
    · cases enters
    · rename_i short
      cases enters
      exact .inner rfl (Nat.le_of_not_lt short)
  | link target =>
    rw [encounter] at enters
    split at enters
    · rename_i followed
      split at enters
      · cases enters
      · rename_i location located
        unfold encounterTarget at enters
        split at enters
        · rename_i entries found
          split at enters
          · cases enters
          · rename_i closed
            cases enters
            refine .link target followed located found ?_ rfl
            simpa using List.find?_eq_none.1 closed
        · cases enters
        · cases enters
    · cases enters

theorem path_of_entered {directory : OpenDirectory} {inside : Entries}
    (enters : encounter tree follow here above name node = .entered directory inside) :
    directory.path = here.path.join ⟨name⟩ := by
  cases entersBy_of_encounter enters with
  | inner same short => rw [same]; rfl
  | link target followed located found closed path => exact path

theorem path_of_passed {visit : Visit}
    (passes : encounter tree follow here above name node = .passed (some visit)) :
    visit.path = here.path.join ⟨name⟩ := by
  cases node with
  | file content => cases passes; rfl
  | directory entries =>
    rw [encounter] at passes
    split at passes
    · cases passes; rfl
    · cases passes
  | link target =>
    rw [encounter] at passes
    split at passes
    · split at passes
      · cases passes; rfl
      · unfold encounterTarget at passes
        split at passes
        · split at passes
          · cases passes; rfl
          · cases passes
        · cases passes; rfl
        · cases passes
    · cases passes

/-- The entries that a walk has yet to come to are the last ones of the directory it is in. -/
def Remaining (tree : FileTree) (here : OpenDirectory) (entries : Entries) : Prop :=
  ∃ before, tree.root.at? here.location = some (.directory (before ++ entries))

theorem Remaining.all (found : tree.root.at? here.location = some (.directory entries)) :
    Remaining tree here entries := ⟨[], found⟩

theorem Remaining.tail {entry : Name × Node} (remaining : Remaining tree here (entry :: rest)) :
    Remaining tree here rest := by
  obtain ⟨before, found⟩ := remaining
  exact ⟨before ++ [entry], by simpa using found⟩

section Sound

variable {tree : SoundTree}

theorem Remaining.names (remaining : Remaining tree here entries) : NamesOrdered entries := by
  obtain ⟨before, found⟩ := remaining
  have ordered := (Node.WellFormed.at? tree.wellFormed found).names
  refine ⟨fun entry member => ordered.1 entry (List.mem_append_right _ member), ?_⟩
  exact (List.pairwise_append.1 ordered.2).2.1

theorem Remaining.entry (remaining : Remaining tree here ((name, node) :: rest)) :
    tree.root.at? (here.location ++ [name]) = some node := by
  obtain ⟨before, found⟩ := remaining
  have ordered := (Node.WellFormed.at? tree.wellFormed found).names
  rw [at?_append, found]
  have member : (name, node) ∈ before ++ (name, node) :: rest :=
    List.mem_append_right _ (List.mem_cons_self ..)
  simp [Node.at?, Node.child?, get?_of_mem ordered member]

theorem Remaining.entered {directory : OpenDirectory} {inside : Entries}
    (remaining : Remaining tree here ((name, node) :: rest))
    (enters : encounter tree follow here above name node = .entered directory inside) :
    Remaining tree directory inside := by
  have there := remaining.entry
  cases entersBy_of_encounter enters with
  | inner same short =>
    rw [same]
    exact .all there
  | link target followed located found closed path => exact .all found

/-- What holds where nothing is left, and holds of entries if it holds of those after the first and
of the directory that the first leads into, holds of every walk. Every fact about whole walks is
shown by this. -/
theorem walk_induction (follow : Bool)
    {motive : OpenDirectory → List OpenDirectory → Entries → Prop}
    (done : ∀ here above, motive here above [])
    (passed : ∀ here above name node rest visit,
      Remaining tree here ((name, node) :: rest) →
      encounter tree follow here above name node = .passed visit →
      motive here above rest → motive here above ((name, node) :: rest))
    (entered : ∀ here above name node rest directory inside,
      Remaining tree here ((name, node) :: rest) →
      encounter tree follow here above name node = .entered directory inside →
      motive directory (here :: above) inside → motive here above rest →
      motive here above ((name, node) :: rest))
    (remaining : Remaining tree here entries) (above : List OpenDirectory) :
    motive here above entries := by
  induction here, above, entries using walkEntries.induct tree follow with
  | case1 here above => exact done here above
  | case2 here above name content rest tail =>
    exact passed here above name _ rest _ remaining rfl (tail remaining.tail)
  | case3 here above name inside rest inner below tail =>
    by_cases long : pathLimit < (here.inner name).path.bytes.length
    · exact passed here above name _ rest _ remaining (if_pos long) (tail remaining.tail)
    · have enters : encounter tree follow here above name (.directory inside) =
          .entered (here.inner name) inside := if_neg long
      exact entered here above name _ rest _ inside remaining enters
        (below (remaining.entered enters)) (tail remaining.tail)
  | case4 here above name target rest path below tail =>
    cases met : encounter tree follow here above name (.link target) with
    | passed visit => exact passed here above name _ rest visit remaining met (tail remaining.tail)
    | entered directory inside =>
      have inner := remaining.entered met
      obtain ⟨location, reached⟩ := directory
      cases entersBy_of_encounter met with
      | link _ followed located found closed same =>
        have unopened : (here :: above).find? (·.location = location) = none :=
          List.find?_eq_none.2 (by simpa using closed)
        obtain rfl : reached = path := same
        exact entered here above name _ rest _ inside remaining met
          (below location inside found unopened inner) (tail remaining.tail)

theorem walk_induction_cons (follow : Bool)
    {motive : OpenDirectory → List OpenDirectory → Entries → Prop}
    (done : ∀ here above, motive here above [])
    (met : ∀ here above name node rest, Remaining tree here ((name, node) :: rest) →
      (∀ directory inside, encounter tree follow here above name node = .entered directory inside →
        motive directory (here :: above) inside) →
      motive here above rest → motive here above ((name, node) :: rest))
    (remaining : Remaining tree here entries) (above : List OpenDirectory) :
    motive here above entries := by
  refine walk_induction follow done ?_ ?_ remaining above
  · intro here above name node rest visit remaining passes later
    refine met here above name node rest remaining (fun directory inside enters => ?_) later
    cases passes.symm.trans enters
  · intro here above name node rest directory inside remaining enters below later
    refine met here above name node rest remaining (fun other inner again => ?_) later
    cases enters.symm.trans again
    exact below

end Sound

end CodeInventory.FileTree
