import CodeInventory.Proofs.FileTree.Trails

namespace CodeInventory.FileTree

open CodeInventory.Path CodeInventory.Text

variable {tree : FileTree} {follow : Bool} {here : OpenDirectory} {above : List OpenDirectory}
  {name : Name} {node : Node} {entries : Entries} {visit : Visit}

def PassesLink (tree : FileTree) (location names : Location) : Prop :=
  ∃ before name target, before ++ [name] <+: names ∧
    tree.root.at? (location ++ before ++ [name]) = some (.link target)

theorem passesLink_head {target : Path} {location : Location}
    (link : tree.root.at? (location ++ [name]) = some (.link target)) (names : Location) :
    PassesLink tree location (name :: names) :=
  ⟨[], name, target, ⟨names, rfl⟩, by simpa using link⟩

theorem PassesLink.below {location names : Location}
    (passes : PassesLink tree (location ++ [name]) names) :
    PassesLink tree location (name :: names) := by
  obtain ⟨before, last, target, ⟨after, split⟩, link⟩ := passes
  refine ⟨name :: before, last, target, ⟨after, by rw [← split]; rfl⟩, ?_⟩
  simpa using link

def BeyondLink (tree : FileTree) (here : OpenDirectory) (path : Path) : Prop :=
  ∃ names, (∀ name ∈ names, NameValid name) ∧ path = pathBelow here.path names ∧
    PassesLink tree here.location names

theorem BeyondLink.of_entry {target path : Path} (names : Location) (valid : NameValid name)
    (link : tree.root.at? (here.location ++ [name]) = some (.link target))
    (validNames : ∀ name ∈ names, NameValid name)
    (below : path = pathBelow (here.path.join ⟨name⟩) names) : BeyondLink tree here path :=
  ⟨name :: names, List.forall_mem_cons.2 ⟨valid, validNames⟩, below, passesLink_head link names⟩

theorem BeyondLink.below {path : Path} (valid : NameValid name)
    (inner : BeyondLink tree (here.inner name) path) : BeyondLink tree here path := by
  obtain ⟨names, validNames, below, passes⟩ := inner
  exact ⟨name :: names, List.forall_mem_cons.2 ⟨valid, validNames⟩, below, passes.below⟩

/-- Only about links does it matter whether they are followed, and which directories are open. -/
theorem encounter_of_not_link (above beyond : List OpenDirectory)
    (notLink : ∀ target, node ≠ .link target) :
    encounter tree false here beyond name node = encounter tree true here above name node := by
  cases node with
  | file content => rfl
  | directory entries => rfl
  | link target => exact absurd rfl (notLink target)

theorem walk_sublist_following {tree : SoundTree} (remaining : Remaining tree here entries)
    (beyond above : List OpenDirectory) :
    (tree.walkEntries false here beyond entries).Sublist
      (tree.walkEntries true here above entries) := by
  refine walk_induction (motive := fun here beyond entries => ∀ above,
    (tree.walkEntries false here beyond entries).Sublist
      (tree.walkEntries true here above entries))
    false ?_ ?_ ?_ remaining beyond above
  · intro here beyond above
    simp [walkEntries]
  · intro here beyond name node rest visit remaining passes later above
    rw [walkEntries_cons, walkEntries_cons]
    refine List.Sublist.append ?_ (later above)
    by_cases link : ∃ target, node = .link target
    · obtain ⟨target, rfl⟩ := link
      exact List.nil_sublist _
    · rw [← encounter_of_not_link above beyond (not_exists.1 link), passes]
      exact List.Sublist.refl _
  · intro here beyond name node rest directory inside remaining enters below later above
    rw [walkEntries_cons, walkEntries_cons, enters]
    refine List.Sublist.append ?_ (later above)
    cases entersBy_of_encounter enters with
    | inner same short =>
      rw [← encounter_of_not_link above beyond (by simp), enters]
      exact below (here :: above)
    | link target followed => cases followed

theorem beyondLink_of_visit {tree : SoundTree} (remaining : Remaining tree here entries)
    (above beyond : List OpenDirectory)
    (visited : visit ∈ tree.walkEntries true here above entries) :
    visit ∈ tree.walkEntries false here beyond entries ∨ BeyondLink tree here visit.path := by
  refine walk_induction (motive := fun here above entries => ∀ beyond,
    visit ∈ tree.walkEntries true here above entries →
    visit ∈ tree.walkEntries false here beyond entries ∨ BeyondLink tree here visit.path)
    true ?_ ?_ ?_ remaining above beyond visited
  · intro here above beyond visited
    rw [walkEntries] at visited
    cases visited
  · intro here above name node rest seen remaining passes later beyond visited
    have valid := remaining.names.1 _ (List.mem_cons_self ..)
    rw [walkEntries_cons] at visited ⊢
    rcases List.mem_append.1 visited with now | visited
    · by_cases link : ∃ target, node = .link target
      · obtain ⟨target, rfl⟩ := link
        rw [passes] at now
        obtain rfl : seen = some visit := by simpa [Encounter.visits] using now
        exact .inr (.of_entry [] valid remaining.entry (by simp) (path_of_passed passes))
      · rw [passes] at now
        rw [encounter_of_not_link above beyond (not_exists.1 link), passes]
        exact .inl (List.mem_append_left _ now)
    · exact (later beyond visited).imp_left (List.mem_append_right _)
  · intro here above name node rest directory inside remaining enters below later beyond visited
    have valid := remaining.names.1 _ (List.mem_cons_self ..)
    rw [walkEntries_cons] at visited ⊢
    rcases List.mem_append.1 visited with now | visited
    · rw [enters] at now
      cases entersBy_of_encounter enters with
      | inner same short =>
        rw [encounter_of_not_link above beyond (by simp), enters]
        rw [same] at below
        exact (below (here :: beyond) (same ▸ now)).imp
          (fun member => List.mem_append_left _ (same ▸ member)) (.below valid)
      | link target followed located found closed path =>
        obtain ⟨names, _, validNames, below⟩ := names_of_visit (remaining.entered enters) now
        rw [path] at below
        exact .inr (.of_entry names valid remaining.entry validNames below)
    · exact (later beyond visited).imp_left (List.mem_append_right _)

end CodeInventory.FileTree
