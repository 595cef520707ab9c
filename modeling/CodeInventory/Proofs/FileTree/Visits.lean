import CodeInventory.FileTree.Walk
import CodeInventory.Proofs.FileTree.Growth

namespace CodeInventory.FileTree

open CodeInventory.Path CodeInventory.Text

mutual

def Node.visits (path : Path) : Node → List Visit
  | .file _ => [.file path]
  | .link _ => []
  | .directory entries =>
    if pathLimit < path.bytes.length then [.failed ⟨path, .unreachable .nameTooLong⟩]
    else visitsIn path entries

def visitsIn (path : Path) : List (Name × Node) → List Visit
  | [] => []
  | (name, node) :: rest => node.visits (path.join ⟨name⟩) ++ visitsIn path rest

end

def Node.Unlinked (node : Node) : Prop := ∀ location target, node.at? location ≠ some (.link target)

theorem Unlinked.at? {tree : FileTree} {location : Location} {node : Node}
    (unlinked : tree.Unlinked) (found : tree.root.at? location = some node) : node.Unlinked := by
  intro below target there
  apply unlinked (location ++ below) target
  apply kindAt?_link.2
  rw [at?_append, found]
  exact there

theorem Node.Unlinked.entry {entries : Entries} (unlinked : (Node.directory entries).Unlinked)
    (names : NamesOrdered entries) {name : Name} {node : Node} (member : (name, node) ∈ entries) :
    node.Unlinked := by
  intro below target there
  apply unlinked (name :: below) target
  rw [Node.at?, Node.child?, get?_of_mem names member]
  exact there

/-- Whether links are to be followed makes no difference where there are none. -/
theorem walkEntries_eq_visitsIn {entries : Entries}
    (wellFormed : (Node.directory entries).WellFormed) (unlinked : (Node.directory entries).Unlinked)
    (tree : FileTree) (follow : Bool) (here : OpenDirectory) (above : List OpenDirectory) :
    tree.walkEntries follow here above entries = visitsIn here.path entries := by
  -- induction on the tree, and for each directory on its entries
  generalize same : Node.directory entries = node at wellFormed unlinked
  induction wellFormed generalizing entries here above with
  | file content => cases same
  | link target => cases same
  | directory inside names inner ih =>
    cases same
    have nodes : ∀ entry ∈ inside, entry.2.Unlinked := fun entry member =>
      unlinked.entry names member
    clear unlinked names
    induction inside with
    | nil => rw [walkEntries, visitsIn]
    | cons entry rest rest_ih =>
      obtain ⟨name, node⟩ := entry
      obtain ⟨first, others⟩ := List.forall_mem_cons.1 nodes
      have tail := rest_ih (fun entry member => inner entry (.tail _ member))
        (fun entry member => ih entry (.tail _ member)) others
      cases node with
      | file content => rw [walkEntries, visitsIn, tail, Node.visits, List.singleton_append]
      | link target => exact absurd rfl (first [] target)
      | directory inside =>
        rw [walkEntries, visitsIn, tail, Node.visits]
        have below := ih _ (.head _) (here.inner name) (here :: above) rfl first
        simp only [below]
        rfl

theorem visitsIn_append (path : Path) (front back : Entries) :
    visitsIn path (front ++ back) = visitsIn path front ++ visitsIn path back := by
  induction front with
  | nil => rw [visitsIn, List.nil_append, List.nil_append]
  | cons entry rest ih =>
    obtain ⟨name, node⟩ := entry
    rw [List.cons_append, visitsIn, visitsIn, ih, List.append_assoc]

theorem put_missing {name : Name} {entries : Entries} (missing : Entries.get? name entries = none) :
    ∃ front back, entries = front ++ back ∧
      ∀ node, Entries.put name node entries = front ++ (name, node) :: back := by
  induction entries with
  | nil => exact ⟨[], [], rfl, fun _ => rfl⟩
  | cons entry rest ih =>
    obtain ⟨other, old⟩ := entry
    rw [Entries.get?] at missing
    split at missing
    · cases missing
    · rename_i different
      by_cases less : name < other
      · refine ⟨[], (other, old) :: rest, rfl, fun node => ?_⟩
        rw [Entries.put, if_neg different, if_pos less]
        rfl
      · obtain ⟨front, back, split, inserted⟩ := ih missing
        refine ⟨(other, old) :: front, back, by rw [split]; rfl, fun node => ?_⟩
        rw [Entries.put, if_neg different, if_neg less, inserted]
        rfl

theorem put_present {name : Name} {old : Node} {entries : Entries} (names : NamesOrdered entries)
    (found : Entries.get? name entries = some old) :
    ∃ front back, entries = front ++ (name, old) :: back ∧
      ∀ node, Entries.put name node entries = front ++ (name, node) :: back := by
  induction entries with
  | nil => cases found
  | cons entry rest ih =>
    obtain ⟨other, first⟩ := entry
    rw [Entries.get?] at found
    split at found
    · rename_i same
      cases found
      subst same
      exact ⟨[], rest, rfl, fun node => by rw [Entries.put, if_pos rfl]; rfl⟩
    · rename_i different
      have less : other < name := (List.pairwise_cons.1 names.2).1 _ (mem_of_get? found)
      obtain ⟨front, back, split, replaced⟩ := ih names.tail found
      refine ⟨(other, first) :: front, back, by rw [split]; rfl, fun node => ?_⟩
      rw [Entries.put, if_neg different, if_neg (List.lt_asymm less), replaced]
      rfl

section Keep

variable {β : Type} {keep : Visit → Option β}

def Node.Silent (keep : Visit → Option β) (path : Path) (node : Node) : Prop :=
  (node.visits path).filterMap keep = []

theorem visitsIn_put_missing {path : Path} {name : Name} {node : Node} {entries : Entries}
    (missing : Entries.get? name entries = none) (silent : node.Silent keep (path.join ⟨name⟩)) :
    (visitsIn path (Entries.put name node entries)).filterMap keep =
      (visitsIn path entries).filterMap keep := by
  obtain ⟨front, back, rfl, inserted⟩ := put_missing missing
  rw [inserted, visitsIn_append, visitsIn_append, visitsIn, List.filterMap_append,
    List.filterMap_append, List.filterMap_append, silent, List.nil_append]

theorem visitsIn_put_present {path : Path} {name : Name} {old new : Node} {entries : Entries}
    (names : NamesOrdered entries) (found : Entries.get? name entries = some old)
    (same : (new.visits (path.join ⟨name⟩)).filterMap keep =
      (old.visits (path.join ⟨name⟩)).filterMap keep) :
    (visitsIn path (Entries.put name new entries)).filterMap keep =
      (visitsIn path entries).filterMap keep := by
  obtain ⟨front, back, rfl, replaced⟩ := put_present names found
  rw [replaced, visitsIn_append, visitsIn_append, visitsIn, visitsIn, List.filterMap_append,
    List.filterMap_append, List.filterMap_append, List.filterMap_append, same]

theorem visits_directory_congr {path : Path} {entries others : Entries}
    (same : (visitsIn path entries).filterMap keep = (visitsIn path others).filterMap keep) :
    ((Node.directory entries).visits path).filterMap keep =
      ((Node.directory others).visits path).filterMap keep := by
  rw [Node.visits, Node.visits]
  split
  · rfl
  · exact same

/-- Where a walk keeps nothing of what is put in and of what was there before, it keeps what it kept
without the change. -/
theorem visits_place {new old : Node} {location : Location} {path : Path}
    (wellFormed : old.WellFormed) (silent : new.Silent keep (pathBelow path location))
    (before : ∀ node, old.at? location = some node → node.Silent keep (pathBelow path location)) :
    ((new.place location old).visits path).filterMap keep = (old.visits path).filterMap keep := by
  fun_induction Node.place new location old generalizing path with
  | case1 old => exact Eq.trans silent (before old rfl).symm
  | case2 name entries =>
    apply visits_directory_congr
    cases found : Entries.get? name entries with
    | none => exact visitsIn_put_missing found silent
    | some old =>
      refine visitsIn_put_present wellFormed.names found (Eq.trans silent ?_)
      refine (before old ?_).symm
      simp [Node.at?, Node.child?, found]
  | case3 name rest entries more old found ih =>
    apply visits_directory_congr
    refine visitsIn_put_present wellFormed.names found ?_
    refine ih (wellFormed.inner _ (mem_of_get? found)) silent fun node there => before node ?_
    simp [Node.at?, Node.child?, found, there]
  | case4 name rest entries more missing => rfl
  | case5 location old => rfl

theorem visits_put {tree : SoundTree} {directory location : Location} {name : Name} {node : Node}
    {root : Path} {entries now : Entries} (admits : tree.Admits directory name node)
    (before : tree.root.at? location = some (.directory entries))
    (after : (tree.put (directory ++ [name]) node).root.at? location = some (.directory now))
    (silent : ∀ rest, location ++ rest = directory ++ [name] →
      node.Silent keep (pathBelow root rest))
    (silentBefore : ∀ rest old, location ++ rest = directory ++ [name] →
      tree.root.at? (directory ++ [name]) = some old → old.Silent keep (pathBelow root rest)) :
    ((Node.directory now).visits root).filterMap keep =
      ((Node.directory entries).visits root).filterMap keep := by
  by_cases above : location <+: directory ++ [name]
  · obtain ⟨rest, split⟩ := above
    have deeper : rest ≠ [] := by
      rintro rfl
      rw [List.append_nil] at split
      exact admits.not_directory (split ▸ kindAt?_of_at? before)
    rw [put, ← split, at?_place_above node tree.root location deeper, before] at after
    have placed : node.place rest (.directory entries) = .directory now := Option.some.inj after
    rw [← placed]
    refine visits_place (Node.WellFormed.at? tree.wellFormed before) (silent rest split) ?_
    intro old there
    refine silentBefore rest old split ?_
    rw [← split, at?_append, before]
    exact there
  · -- nothing is below a free name or a file, so the two locations are apart
    have below : ¬ directory ++ [name] <+: location := by
      rintro ⟨rest, rfl⟩
      have deeper : rest ≠ [] := by
        rintro rfl
        exact above (by simp)
      exact admits.not_directory (directory_above (kindAt?_of_at? before) deeper)
    rw [put, at?_place_apart above below, before] at after
    cases after
    rfl

end Keep

theorem file_of_visit {path seen : Path} {node : Node} (wellFormed : node.WellFormed)
    (visited : .file seen ∈ node.visits path) :
    ∃ names content, seen = pathBelow path names ∧ node.at? names = some (.file content) := by
  induction wellFormed generalizing path with
  | file content =>
    rw [Node.visits, List.mem_singleton] at visited
    cases visited
    exact ⟨[], content, rfl, rfl⟩
  | link target => cases visited
  | directory entries names inner ih =>
    rw [Node.visits] at visited
    split at visited
    · simp at visited
    · have inside : ∀ others : Entries, .file seen ∈ visitsIn path others →
          ∃ name node, (name, node) ∈ others ∧ .file seen ∈ node.visits (path.join ⟨name⟩) := by
        intro others
        induction others with
        | nil => simp [visitsIn]
        | cons entry rest rest_ih =>
          obtain ⟨name, node⟩ := entry
          rw [visitsIn, List.mem_append]
          rintro (here | later)
          · exact ⟨name, node, .head _, here⟩
          · obtain ⟨other, found, member, there⟩ := rest_ih later
            exact ⟨other, found, .tail _ member, there⟩
      obtain ⟨name, node, member, there⟩ := inside entries visited
      obtain ⟨below, content, rfl, found⟩ := ih _ member there
      refine ⟨name :: below, content, rfl, ?_⟩
      rw [Node.at?, Node.child?, get?_of_mem names member]
      exact found

end CodeInventory.FileTree
