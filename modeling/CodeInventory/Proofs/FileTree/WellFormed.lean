import CodeInventory.FileTree.Change
import CodeInventory.Proofs.Path.Segments

namespace CodeInventory.FileTree

open CodeInventory.Path

def NamesOrdered (entries : Entries) : Prop :=
  (∀ entry ∈ entries, NameValid entry.1) ∧ entries.Pairwise fun a b => a.1 < b.1

instance (entries : Entries) : Decidable (NamesOrdered entries) :=
  inferInstanceAs (Decidable (_ ∧ _))

inductive Node.WellFormed : Node → Prop where
  | file (content : Text.Bytes) : WellFormed (.file content)
  | link (target : Path) : WellFormed (.link target)
  | directory (entries : Entries) (names : NamesOrdered entries)
      (inner : ∀ entry ∈ entries, WellFormed entry.2) : WellFormed (.directory entries)

/-- What every file system promises of its directories. -/
def WellFormed (tree : FileTree) : Prop := tree.root.WellFormed

theorem NamesOrdered.tail {entry : Name × Node} {entries : Entries}
    (names : NamesOrdered (entry :: entries)) : NamesOrdered entries :=
  ⟨fun other member => names.1 other (List.mem_cons_of_mem _ member),
    (List.pairwise_cons.1 names.2).2⟩

theorem Node.WellFormed.names {entries : Entries}
    (wellFormed : (Node.directory entries).WellFormed) : NamesOrdered entries := by
  cases wellFormed with
  | directory _ names inner => exact names

theorem Node.WellFormed.inner {entries : Entries}
    (wellFormed : (Node.directory entries).WellFormed) : ∀ entry ∈ entries, entry.2.WellFormed := by
  cases wellFormed with
  | directory _ names inner => exact inner

theorem mem_of_get? {name : Name} {node : Node} {entries : Entries}
    (found : Entries.get? name entries = some node) : (name, node) ∈ entries := by
  induction entries with
  | nil => simp [Entries.get?] at found
  | cons entry rest ih =>
    obtain ⟨other, old⟩ := entry
    rw [Entries.get?] at found
    split at found
    · rename_i same
      cases found
      exact same ▸ List.mem_cons_self ..
    · exact List.mem_cons_of_mem _ (ih found)

theorem get?_of_mem {name : Name} {node : Node} {entries : Entries} (names : NamesOrdered entries)
    (member : (name, node) ∈ entries) : Entries.get? name entries = some node := by
  induction entries with
  | nil => cases member
  | cons entry rest ih =>
    obtain ⟨other, old⟩ := entry
    rw [Entries.get?]
    rcases List.mem_cons.1 member with same | member
    · cases same
      exact if_pos rfl
    · have less : other < name := (List.pairwise_cons.1 names.2).1 _ member
      have different : other ≠ name := by
        rintro rfl
        exact List.lt_irrefl _ less
      rw [if_neg different, ih names.tail member]

theorem at?_append (first second : Location) (node : Node) :
    node.at? (first ++ second) = (node.at? first).bind (Node.at? second) := by
  induction first generalizing node with
  | nil => rfl
  | cons name rest ih =>
    rw [List.cons_append, Node.at?, Node.at?, Option.bind_assoc]
    congr 1
    funext child
    exact ih child

theorem Node.WellFormed.at? {location : Location} {node found : Node}
    (wellFormed : node.WellFormed) (reached : node.at? location = some found) :
    found.WellFormed := by
  induction location generalizing node with
  | nil =>
    cases reached
    exact wellFormed
  | cons name rest ih =>
    obtain ⟨child, here, below⟩ := Option.bind_eq_some_iff.1 reached
    cases wellFormed with
    | file content => cases here
    | link target => cases here
    | directory entries names inner => exact ih (inner _ (mem_of_get? here)) below

theorem valid_of_at? {location : Location} {node found : Node} (wellFormed : node.WellFormed)
    (reached : node.at? location = some found) : ∀ name ∈ location, NameValid name := by
  induction location generalizing node with
  | nil => simp
  | cons name rest ih =>
    obtain ⟨child, here, below⟩ := Option.bind_eq_some_iff.1 reached
    cases wellFormed with
    | file content => cases here
    | link target => cases here
    | directory entries names inner =>
      have member := mem_of_get? here
      exact List.forall_mem_cons.2 ⟨names.1 _ member, ih (inner _ member) below⟩

theorem mem_put {name : Name} {node : Node} {entries : Entries} {entry : Name × Node}
    (member : entry ∈ Entries.put name node entries) : entry = (name, node) ∨ entry ∈ entries := by
  induction entries with
  | nil => exact .inl (List.mem_singleton.1 member)
  | cons first rest ih =>
    obtain ⟨other, old⟩ := first
    rw [Entries.put] at member
    split at member
    · exact (List.mem_cons.1 member).imp_right (List.mem_cons_of_mem _)
    · split at member
      · exact List.mem_cons.1 member
      · rcases List.mem_cons.1 member with rfl | member
        · exact .inr (List.mem_cons_self ..)
        · exact (ih member).imp_right (List.mem_cons_of_mem _)

theorem NamesOrdered.put {name : Name} {node : Node} {entries : Entries} (valid : NameValid name)
    (names : NamesOrdered entries) : NamesOrdered (Entries.put name node entries) := by
  refine ⟨fun entry member => ?_, ?_⟩
  · rcases mem_put member with rfl | member
    · exact valid
    · exact names.1 entry member
  · induction entries with
    | nil => simp [Entries.put]
    | cons first rest ih =>
      obtain ⟨other, old⟩ := first
      obtain ⟨above, tail⟩ := List.pairwise_cons.1 names.2
      rw [Entries.put]
      split
      · rename_i same
        exact List.pairwise_cons.2 ⟨fun entry member => same ▸ above entry member, tail⟩
      · rename_i different
        split
        · rename_i less
          refine List.pairwise_cons.2 ⟨fun entry member => ?_, names.2⟩
          rcases List.mem_cons.1 member with rfl | member
          · exact less
          · exact List.lt_trans less (above entry member)
        · rename_i notLess
          have less : other < name := Std.lt_of_le_of_ne (List.not_lt.1 notLess) different
          refine List.pairwise_cons.2 ⟨fun entry member => ?_, ih names.tail⟩
          rcases mem_put member with rfl | member
          · exact less
          · exact above entry member

theorem Node.WellFormed.put {name : Name} {node : Node} {entries : Entries}
    (wellFormed : (Node.directory entries).WellFormed) (valid : NameValid name)
    (new : node.WellFormed) : (Node.directory (Entries.put name node entries)).WellFormed := by
  refine .directory _ (wellFormed.names.put valid) fun entry member => ?_
  rcases mem_put member with rfl | member
  · exact new
  · exact wellFormed.inner entry member

/-- Only the last name of a location can be new. -/
theorem Node.WellFormed.place {new old : Node} {location : Location} (wellFormed : old.WellFormed)
    (placed : new.WellFormed) (last : ∀ name, location.getLast? = some name → NameValid name) :
    (new.place location old).WellFormed := by
  fun_induction Node.place new location old with
  | case1 old => exact placed
  | case2 name entries => exact wellFormed.put (last name rfl) placed
  | case3 name rest entries more old found ih =>
    have member := mem_of_get? found
    refine wellFormed.put (wellFormed.names.1 _ member) (ih (wellFormed.inner _ member) ?_)
    intro other ends
    refine last other ?_
    rw [List.getLast?_cons, ends]
    rfl
  | case4 name rest entries more missing => exact wellFormed
  | case5 location old => exact wellFormed

theorem Node.WellFormed.erase {old : Node} {location : Location} (wellFormed : old.WellFormed) :
    (old.erase location).WellFormed := by
  fun_induction Node.erase location old with
  | case1 name entries =>
    refine .directory _ ⟨fun entry member => ?_, wellFormed.names.2.filter _⟩ fun entry member => ?_
    · exact wellFormed.names.1 entry (List.mem_filter.1 member).1
    · exact wellFormed.inner entry (List.mem_filter.1 member).1
  | case2 name rest entries more old found ih =>
    have member := mem_of_get? found
    exact wellFormed.put (wellFormed.names.1 _ member) (ih (wellFormed.inner _ member))
  | case3 name rest entries more missing => exact wellFormed
  | case4 location old => exact wellFormed

theorem valid_of_free {tree : FileTree} {purpose : Purpose} {links : Nat} {here directory : Location}
    {segments : List Text.Bytes} {name : Name} (noSlash : ∀ segment ∈ segments, slash ∉ segment)
    (free : descend tree purpose links here segments = .ok (.free directory name)) :
    NameValid name := by
  fun_induction descend tree purpose links here segments with
  | case1 | case4 | case5 | case7 | case9 | case10 | case11 | case12 | case13 => cases free
  | case2 links here segment rest idle ih =>
    exact ih (fun other member => noSlash other (List.mem_cons_of_mem _ member)) free
  | case3 links here rest notIdle ih =>
    exact ih (fun other member => noSlash other (List.mem_cons_of_mem _ member)) free
  | case6 links here segment notIdle notUp short missing _ =>
    cases free
    have idle : isIdle name = false := by simpa using notIdle
    simp only [isIdle, Bool.or_eq_false_iff, decide_eq_false_iff_not] at idle
    exact ⟨idle.1, idle.2, notUp, noSlash name (List.mem_cons_self ..)⟩
  | case8 links here segment rest notIdle notUp _ short entries found ih =>
    exact ih (fun other member => noSlash other (List.mem_cons_of_mem _ member)) free
  | case14 here segment rest notIdle notUp _ short target found _ nonempty links ih =>
    refine ih (fun other member => ?_) free
    rcases List.mem_append.1 member with member | member
    · exact no_slash_in_segments member
    · exact noSlash other (List.mem_cons_of_mem _ member)

theorem valid_of_resolve {tree : FileTree} {purpose : Purpose} {path : Path} {directory : Location}
    {name : Name} (free : tree.resolve purpose path = .ok (.free directory name)) :
    NameValid name := by
  unfold resolve at free
  split at free
  · cases free
  · split at free
    · cases free
    · split at free
      · cases free
      · exact valid_of_free (fun _ => no_slash_in_segments) free

theorem WellFormed.put_free {tree : FileTree} {purpose : Purpose} {path : Path}
    {directory : Location} {name : Name} {node : Node} (wellFormed : tree.WellFormed)
    (free : tree.resolve purpose path = .ok (.free directory name)) (new : node.WellFormed) :
    (tree.put (directory ++ [name]) node).WellFormed := by
  refine Node.WellFormed.place wellFormed new fun other last => ?_
  rw [List.getLast?_append] at last
  cases last
  exact valid_of_resolve free

theorem WellFormed.makeDirectory {tree : FileTree} (wellFormed : tree.WellFormed) (path : Path) :
    (tree.makeDirectory path).2.WellFormed := by
  unfold FileTree.makeDirectory
  split
  · exact wellFormed
  · exact wellFormed
  · rename_i directory name free
    exact wellFormed.put_free free (.directory [] ⟨by simp, .nil⟩ (by simp))

theorem WellFormed.ensureDirectory {tree : FileTree} (wellFormed : tree.WellFormed) (path : Path) :
    (tree.ensureDirectory path).2.WellFormed := by
  have made := wellFormed.makeDirectory path
  unfold FileTree.ensureDirectory
  split
  · rename_i fault after result
    rw [result] at made
    split <;> exact made
  · exact made

theorem WellFormed.makeDirectories {tree : FileTree} (wellFormed : tree.WellFormed) (path : Path) :
    (tree.makeDirectories path).2.WellFormed := by
  unfold FileTree.makeDirectories
  generalize path.components.length = depth
  induction depth generalizing path with
  | zero => exact wellFormed
  | succ depth ih =>
    rw [makeDirectoriesWithin]
    split
    · split
      · exact wellFormed
      · rename_i parent _
        have above := ih parent
        split
        · rename_i after result
          rw [result] at above
          exact above.ensureDirectory path
        · exact above
    · exact wellFormed.ensureDirectory path

theorem WellFormed.writeFile {tree : FileTree} (wellFormed : tree.WellFormed) (path : Path)
    (content : Text.Bytes) : (tree.writeFile path content).2.WellFormed := by
  unfold FileTree.writeFile
  split
  · exact wellFormed
  · rename_i directory name free
    exact wellFormed.put_free free (.file content)
  · rename_i location occupied
    split
    · rename_i old found
      refine Node.WellFormed.place wellFormed (.file content) fun name last => ?_
      exact valid_of_at? wellFormed found name (List.mem_of_getLast? last)
    · exact wellFormed

theorem WellFormed.makeLink {tree : FileTree} (wellFormed : tree.WellFormed) (path target : Path) :
    (tree.makeLink path target).2.WellFormed := by
  unfold FileTree.makeLink
  split
  · exact wellFormed
  · exact wellFormed
  · rename_i directory name free
    exact wellFormed.put_free free (.link target)

theorem WellFormed.remove {tree : FileTree} (wellFormed : tree.WellFormed) (path : Path) :
    (tree.remove path).2.WellFormed := by
  unfold FileTree.remove
  split
  · exact wellFormed
  · exact wellFormed
  · exact Node.WellFormed.erase wellFormed

end CodeInventory.FileTree
