import CodeInventory.Generate
import CodeInventory.Proofs.FileTree.Growth
import CodeInventory.Proofs.Path.Parents

namespace CodeInventory.FileTree

open CodeInventory.Path CodeInventory.Text

variable {tree before after : FileTree} {path : Path}

/-- Empty directories are made one after the other, at the locations listed. -/
inductive Made : FileTree → List Location → FileTree → Prop where
  | nothing (tree : FileTree) : Made tree [] tree
  | directory {before after : FileTree} {directory : Location} {name : Name} {made : List Location}
      (admits : before.Admits directory name (.directory []))
      (rest : Made (before.put (directory ++ [name]) (.directory [])) made after) :
      Made before ((directory ++ [name]) :: made) after

theorem Made.one {directory : Location} {name : Name}
    (admits : before.Admits directory name (.directory [])) :
    Made before [directory ++ [name]] (before.put (directory ++ [name]) (.directory [])) :=
  .directory admits (.nothing _)

theorem Made.append {between : FileTree} {first second : List Location}
    (upper : Made before first between) (lower : Made between second after) :
    Made before (first ++ second) after := by
  induction upper with
  | nothing tree => exact lower
  | directory admits rest ih => exact .directory admits (ih lower)

theorem Made.grown {made : List Location} (steps : Made before made after) : Grown before after := by
  induction steps with
  | nothing tree => exact .refl tree
  | directory admits rest ih => exact admits.grown.trans ih

theorem Made.wellFormed {made : List Location} (steps : Made before made after)
    (wellFormed : before.WellFormed) : after.WellFormed := by
  induction steps with
  | nothing tree => exact wellFormed
  | directory admits rest ih => exact ih (admits.wellFormed wellFormed)

theorem Made.unlinked {made : List Location} (steps : Made before made after)
    (unlinked : before.Unlinked) : after.Unlinked := by
  induction steps with
  | nothing tree => exact unlinked
  | directory admits rest ih => exact ih (admits.unlinked unlinked)

theorem Made.absent {made : List Location} (steps : Made before made after) :
    ∀ location ∈ made, before.kindAt? location = none := by
  induction steps with
  | nothing tree => simp
  | @directory before after directory name made admits rest ih =>
    have free : before.kindAt? (directory ++ [name]) = none := by
      rcases admits.change with ⟨_, free⟩ | ⟨_, impossible, _⟩
      · exact free
      · cases impossible
    refine List.forall_mem_cons.2 ⟨free, fun location member => ?_⟩
    have later := ih location member
    rw [admits.kindAt?_put] at later
    split at later
    · cases later
    · exact later

theorem Made.kindAt? {made : List Location} (steps : Made before made after) (location : Location) :
    after.kindAt? location =
      if location ∈ made then some .directory else before.kindAt? location := by
  induction steps with
  | nothing tree => simp
  | @directory before after directory name made admits rest ih =>
    rw [ih, admits.kindAt?_put]
    by_cases later : location ∈ made
    · simp [later]
    · by_cases here : location = directory ++ [name]
      · simp [here, Node.kind]
      · simp [later, here]

theorem admits_of_free {tree : AnchoredTree} {purpose : Purpose} {directory : Location}
    {name : Name} {node : Node} (free : tree.resolve purpose path = .ok (.free directory name))
    (new : node = .directory [] ∨ ∃ content, node = .file content) :
    tree.Admits directory name node := by
  obtain ⟨_, leads⟩ := resolve_ok_iff.1 free
  obtain ⟨home, missing⟩ := leads.free_home (directory_origin path tree.anchored)
  refine ⟨home, valid_of_resolve free, ?_⟩
  rcases new with made | ⟨content, written⟩
  · exact .inl ⟨made, missing⟩
  · exact .inr ⟨content, written, .inl missing⟩

theorem resolve_put {purpose : Purpose} {directory : Location} {name : Name} {node : Node}
    (free : tree.resolve purpose path = .ok (.free directory name))
    (admits : tree.Admits directory name node) :
    (tree.put (directory ++ [name]) node).resolve purpose path =
      .ok (.occupied (directory ++ [name])) := by
  obtain ⟨usable, leads⟩ := resolve_ok_iff.1 free
  refine resolve_ok_iff.2 ⟨usable, ?_⟩
  have there : (tree.put (directory ++ [name]) node).kindAt? (directory ++ [name]) =
      some node.kind := by
    rw [admits.kindAt?_put, if_pos rfl]
  have notLink : ∀ target, node.kind ≠ .link target := by
    intro target
    rcases admits.change with ⟨rfl, _⟩ | ⟨content, rfl, _⟩ <;> simp [Node.kind]
  have follows := leads.grown admits.grown (by
    intro home given target same
    cases same
    rw [there]
    simpa using notLink target)
  rw [Place.within, there] at follows
  exact follows

theorem makeDirectory_cases (tree : FileTree) (path : Path) :
    (∃ fault, tree.makeDirectory path = (.error fault, tree)) ∨
      ∃ directory name,
        tree.resolve .entry path.withoutFinalSlashes = .ok (.free directory name) ∧
        tree.makeDirectory path = (.ok (), tree.put (directory ++ [name]) (.directory [])) := by
  unfold makeDirectory
  cases tree.resolve .entry path.withoutFinalSlashes with
  | error fault => exact .inl ⟨fault, rfl⟩
  | ok place =>
    cases place with
    | occupied location => exact .inl ⟨_, rfl⟩
    | free directory name => exact .inr ⟨directory, name, rfl, rfl⟩

theorem ensureDirectory_cases (tree : FileTree) (path : Path) :
    (∃ fault, tree.ensureDirectory path = (.error fault, tree)) ∨
      (tree.isDirectory path = true ∧ tree.ensureDirectory path = (.ok (), tree)) ∨
      ∃ directory name,
        tree.resolve .entry path.withoutFinalSlashes = .ok (.free directory name) ∧
        tree.ensureDirectory path = (.ok (), tree.put (directory ++ [name]) (.directory [])) := by
  unfold ensureDirectory
  rcases makeDirectory_cases tree path with ⟨fault, failed⟩ | ⟨directory, name, free, done⟩
  · rw [failed]
    by_cases there : tree.isDirectory path = true
    · exact .inr (.inl ⟨there, if_pos there⟩)
    · exact .inl ⟨fault, if_neg there⟩
  · rw [done]
    exact .inr (.inr ⟨directory, name, free, rfl⟩)

theorem locate_made {tree : AnchoredTree} {directory : Location} {name : Name}
    (free : tree.resolve .entry path = .ok (.free directory name)) :
    (tree.put (directory ++ [name]) (.directory [])).locate path = .ok (directory ++ [name]) := by
  have admits := admits_of_free free (.inl rfl)
  obtain ⟨usable, leads⟩ := resolve_ok_iff.1 (resolve_put free admits)
  refine locate_ok_iff.2 ⟨usable, leads.target ?_⟩
  rintro location target ⟨⟩
  rw [admits.kindAt?_put, if_pos rfl]
  simp [Node.kind]

structure Prepared (before : FileTree) (path : Path) (made : List Location) (after : FileTree) :
    Prop where
  steps : Made before made after
  onTheWay : ∀ location ∈ made, ∃ ancestor, OnTheWay ancestor path ∧
    after.locate ancestor = .ok location

theorem ensureDirectory_prepared (tree : AnchoredTree)
    (trimmed : path.withoutFinalSlashes = path) :
    ∃ made, Prepared tree path made (tree.ensureDirectory path).2 ∧
      ((tree.ensureDirectory path).1 = .ok () →
        (tree.ensureDirectory path).2.isDirectory path = true) := by
  have unchanged : Prepared tree path [] tree := ⟨.nothing tree, by simp⟩
  rcases ensureDirectory_cases tree path with
    ⟨fault, failed⟩ | ⟨there, kept⟩ | ⟨directory, name, free, done⟩
  · rw [failed]
    exact ⟨[], unchanged, fun ok => by cases ok⟩
  · rw [kept]
    exact ⟨[], unchanged, fun _ => there⟩
  · rw [trimmed] at free
    have admits := admits_of_free free (.inl rfl)
    have found := locate_made free
    rw [done]
    refine ⟨[directory ++ [name]], ⟨.one admits, ?_⟩, fun _ => ?_⟩
    · intro location member
      rw [List.mem_singleton] at member
      exact ⟨path, .arrived, member ▸ found⟩
    · refine isDirectory_iff.2 ⟨_, found, ?_⟩
      rw [admits.kindAt?_put, if_pos rfl]
      rfl

theorem makeDirectoriesWithin_prepared (tree : AnchoredTree)
    (trimmed : path.withoutFinalSlashes = path) (depth : Nat) :
    ∃ made, Prepared tree path made (tree.makeDirectoriesWithin path depth).2 ∧
      (depth ≠ 0 → (tree.makeDirectoriesWithin path depth).1 = .ok () →
        (tree.makeDirectoriesWithin path depth).2.isDirectory path = true) := by
  induction depth generalizing path with
  | zero => exact ⟨[], ⟨.nothing tree, by simp⟩, by simp⟩
  | succ depth ih =>
    rw [makeDirectoriesWithin]
    split
    · split
      · exact ⟨[], ⟨.nothing tree, by simp⟩, fun _ ok => by cases ok⟩
      · rename_i parent up
        -- what is made for the parent comes first, and the parent is on the way
        obtain ⟨upper, ⟨steps, onTheWay⟩, _⟩ := ih (withoutFinalSlashes_parent up)
        have further : ∀ location ∈ upper, ∃ ancestor, OnTheWay ancestor path ∧
            (tree.makeDirectoriesWithin parent depth).2.locate ancestor = .ok location := by
          intro location member
          obtain ⟨ancestor, above, reached⟩ := onTheWay location member
          exact ⟨ancestor, .further up above, reached⟩
        split
        · rename_i above done
          rw [done] at steps further
          obtain ⟨lower, ⟨last, here⟩, there⟩ :=
            ensureDirectory_prepared ⟨above, steps.grown.anchored tree.anchored⟩ trimmed
          refine ⟨upper ++ lower, ⟨steps.append last, ?_⟩, fun _ => there⟩
          intro location member
          rcases List.mem_append.1 member with member | member
          · obtain ⟨ancestor, above, reached⟩ := further location member
            exact ⟨ancestor, above, last.grown.locate reached⟩
          · exact here location member
        · rename_i failed
          refine ⟨upper, ⟨steps, further⟩, fun _ ok => ?_⟩
          exact (failed _ (Prod.ext ok rfl)).elim
    · obtain ⟨made, prepared, there⟩ := ensureDirectory_prepared tree trimmed
      exact ⟨made, prepared, fun _ => there⟩

theorem makeDirectories_prepared (tree : AnchoredTree)
    (trimmed : path.withoutFinalSlashes = path) :
    ∃ made, Prepared tree path made (tree.makeDirectories path).2 ∧
      (path.bytes ≠ [] → (tree.makeDirectories path).1 = .ok () →
        (tree.makeDirectories path).2.isDirectory path = true) := by
  obtain ⟨made, prepared, there⟩ :=
    makeDirectoriesWithin_prepared tree trimmed path.components.length
  refine ⟨made, prepared, fun nonempty => there ?_⟩
  intro none
  exact nonempty (eq_nil_of_no_components (List.eq_nil_of_length_eq_zero none))

theorem writeFile_cases (tree : AnchoredTree) (path : Path) (content : Bytes) :
    (∃ fault, tree.writeFile path content = (.error fault, tree.toFileTree)) ∨
      ∃ directory name, tree.Admits directory name (.file content) ∧
        tree.writeFile path content = (.ok (), tree.put (directory ++ [name]) (.file content)) ∧
        (tree.put (directory ++ [name]) (.file content)).resolve .writing path =
          .ok (.occupied (directory ++ [name])) := by
  unfold writeFile
  cases resolved : tree.resolve .writing path with
  | error fault => exact .inl ⟨fault, rfl⟩
  | ok place =>
    cases place with
    | free directory name =>
      have admits := admits_of_free resolved (.inr ⟨content, rfl⟩)
      exact .inr ⟨directory, name, admits, rfl, resolve_put resolved admits⟩
    | occupied location =>
      cases found : tree.root.at? location with
      | none => exact .inl ⟨.isDirectory, by simp only [found]⟩
      | some node =>
        cases node with
        | link target => exact .inl ⟨.isDirectory, by simp only [found]⟩
        | directory entries => exact .inl ⟨.isDirectory, by simp only [found]⟩
        | file old =>
          obtain ⟨usable, leads⟩ := resolve_ok_iff.1 resolved
          obtain ⟨directory, name, rfl, valid, home⟩ :=
            leads.file_home (directory_origin path tree.anchored) (kindAt?_of_at? found)
              fun _ => no_slash_in_segments
          have admits : tree.Admits directory name (.file content) :=
            ⟨home, valid, .inr ⟨content, rfl, .inr ⟨old, kindAt?_of_at? found⟩⟩⟩
          refine .inr ⟨directory, name, admits, by simp only [found], ?_⟩
          exact resolve_ok_iff.2 ⟨usable, leads.occupied_grown admits.grown⟩

theorem locate_written {directory : Location} {name : Name} {content : Bytes}
    (admits : tree.Admits directory name (.file content))
    (written : (tree.put (directory ++ [name]) (.file content)).resolve .writing path =
      .ok (.occupied (directory ++ [name]))) :
    (tree.put (directory ++ [name]) (.file content)).locate path = .ok (directory ++ [name]) := by
  obtain ⟨usable, leads⟩ := resolve_ok_iff.1 written
  refine locate_ok_iff.2 ⟨usable, leads.target ?_⟩
  rintro location target ⟨⟩
  rw [admits.kindAt?_put, if_pos rfl]
  simp [Node.kind]

/-- Directories are made on the way to the path's parent, and only then the file is written. -/
structure Written (before : FileTree) (path : Path) (content : Bytes) (made : List Location)
    (between : FileTree) (directory : Location) (name : Name) : Prop where
  steps : Made before made between
  admits : between.Admits directory name (.file content)
  resolved : (between.put (directory ++ [name]) (.file content)).resolve .writing path =
    .ok (.occupied (directory ++ [name]))
  parent : ∀ parent, path.parent? = some parent → parent.bytes ≠ [] →
    between.isDirectory parent = true

/-- The directories that appear, if any, are those that the path's parent lacked. -/
def OnTheWayTo (tree : FileTree) (path : Path) (location : Location) : Prop :=
  ∃ parent ancestor, path.parent? = some parent ∧ OnTheWay ancestor parent ∧
    tree.locate ancestor = .ok location

theorem writeWithParents_cases (tree : AnchoredTree) (path : Path) (content : String) :
    ∃ made between, Made tree made between ∧ (∀ location ∈ made, between.OnTheWayTo path location) ∧
      ((∃ fault, tree.writeWithParents path content = (.error fault, between)) ∨
        ∃ directory name, Written tree path (encode content) made between directory name ∧
          tree.writeWithParents path content =
            (.ok (), between.put (directory ++ [name]) (.file (encode content)))) := by
  unfold writeWithParents
  cases up : path.parent? with
  | none =>
    refine ⟨[], tree, .nothing tree, by simp, ?_⟩
    rcases writeFile_cases tree path (encode content) with
      failed | ⟨directory, name, admits, done, resolved⟩
    · exact .inl failed
    · exact .inr ⟨directory, name, ⟨.nothing tree, admits, resolved, by simp [up]⟩, done⟩
  | some parent =>
    obtain ⟨made, ⟨steps, onTheWay⟩, there⟩ :=
      makeDirectories_prepared tree (withoutFinalSlashes_parent up)
    have far : ∀ location ∈ made, (tree.makeDirectories parent).2.OnTheWayTo path location := by
      intro location member
      obtain ⟨ancestor, above, reached⟩ := onTheWay location member
      exact ⟨parent, ancestor, up, above, reached⟩
    refine ⟨made, (tree.makeDirectories parent).2, steps, far, ?_⟩
    dsimp only
    generalize tree.makeDirectories parent = outcome at steps there
    obtain ⟨result, between⟩ := outcome
    cases result with
    | error fault => exact .inl ⟨fault, rfl⟩
    | ok =>
      have anchored := steps.grown.anchored tree.anchored
      rcases writeFile_cases ⟨between, anchored⟩ path (encode content) with
        failed | ⟨directory, name, admits, done, resolved⟩
      · exact .inl failed
      · refine .inr ⟨directory, name, ⟨steps, admits, resolved, ?_⟩, done⟩
        intro other same nonempty
        rw [up] at same
        cases same
        exact there nonempty rfl

theorem makeDirectory_there (trimmed : path.withoutFinalSlashes = path)
    (there : tree.isDirectory path = true) :
    tree.makeDirectory path = (.error .alreadyExists, tree) := by
  obtain ⟨location, reached, _⟩ := isDirectory_iff.1 there
  obtain ⟨usable, leads⟩ := locate_ok_iff.1 reached
  obtain ⟨entry, taken⟩ := leads.entry_of_target
  have resolved : tree.resolve .entry path = .ok (.occupied entry) :=
    resolve_ok_iff.2 ⟨usable, taken⟩
  simp only [makeDirectory, trimmed, resolved]

theorem makeDirectories_there (trimmed : path.withoutFinalSlashes = path)
    (there : path.bytes ≠ [] → tree.isDirectory path = true) :
    tree.makeDirectories path = (.ok (), tree) := by
  unfold makeDirectories
  by_cases empty : path.bytes = []
  · obtain rfl : path = ⟨[]⟩ := congrArg Path.mk empty
    rfl
  · cases path.components.length with
    | zero => rfl
    | succ depth =>
      have made := makeDirectory_there trimmed (there empty)
      simp only [makeDirectoriesWithin, ensureDirectory, made, there empty, if_true]

theorem Written.again {before : SoundTree} {content : String} {made : List Location}
    {between : FileTree} {directory : Location} {name : Name}
    (written : Written before path (encode content) made between directory name) :
    (between.put (directory ++ [name]) (.file (encode content))).writeWithParents path content =
      (.ok (), between.put (directory ++ [name]) (.file (encode content))) := by
  have held := written.admits.at?_put_self
  have known := written.admits.wellFormed (written.steps.wellFormed before.wellFormed)
  have resolved := written.resolved
  have parents : ∀ parent, path.parent? = some parent → parent.bytes ≠ [] →
      (between.put (directory ++ [name]) (.file (encode content))).isDirectory parent = true :=
    fun parent up nonempty => written.admits.grown.isDirectory (written.parent parent up nonempty)
  generalize between.put (directory ++ [name]) (.file (encode content)) = after at *
  have rewritten : after.writeFile path (encode content) = (.ok (), after) := by
    simp only [writeFile, resolved, held, put, place_same known held]
  unfold writeWithParents
  cases up : path.parent? with
  | none => exact rewritten
  | some parent =>
    have there := makeDirectories_there (withoutFinalSlashes_parent up) (parents parent up)
    simp only [there]
    exact rewritten

end CodeInventory.FileTree
