import CodeInventory.Proofs.FileTree.Making
import CodeInventory.Proofs.FileTree.Straight
import CodeInventory.Proofs.Inventory.Unlinked

namespace CodeInventory.Scanner

open CodeInventory.FileTree CodeInventory.Path CodeInventory.Source CodeInventory.Text

variable {α : Type} {scanner : Scanner} {extractor : Extractor α} {root : Path}
  {tree before after : FileTree} {location : Location}

/-- The root opens wherever the tree has a directory at one location, or in no tree. -/
def OpensAt (openable : Prop) (root : Path) (location : Location) (tree : FileTree) : Prop :=
  ∀ found entries, openRoot? tree root = some (found, entries) ↔
    openable ∧ found = location ∧ tree.root.at? location = some (.directory entries)

theorem openRoot?_of_locate {entries : Entries} (reached : tree.locate root = .ok location)
    (directory : tree.root.at? location = some (.directory entries)) :
    openRoot? tree root = some (location, entries) := by
  simp only [openRoot?, reached, directory]

theorem opensAt_straight {base path : Path} {home : Location} (unlinked : tree.Unlinked)
    (reached : tree.locate base = .ok home) (directory : tree.kindAt? home = some .directory)
    (plain : dots ∉ segmentsOf path.bytes) :
    OpensAt (Openable base path) (base.join path) (straightBelow home path) tree := by
  intro found entries
  have joined := locate_join_iff unlinked reached directory plain
  constructor
  · intro opened
    obtain ⟨located, there⟩ := openRoot?_eq_some opened
    obtain ⟨openable, rfl, _⟩ := (joined found).1 ⟨located, kindAt?_of_at? there⟩
    exact ⟨openable, rfl, there⟩
  · rintro ⟨openable, rfl, there⟩
    obtain ⟨located, _⟩ := (joined _).2 ⟨openable, rfl, kindAt?_of_at? there⟩
    exact openRoot?_of_locate located there

/-- A scan that went well goes well again, with the same inventory; what is skipped is the same if
everything new can be visited. -/
def ScansAgain (scanner : Scanner) (extractor : Extractor α) (root : Path)
    (before after : FileTree) (visible : Prop) : Prop :=
  ∀ scanned, (scanner.scan before extractor root).result = .ok scanned →
    ∃ again, (scanner.scan after extractor root).result = .ok again ∧
      again.inventory = scanned.inventory ∧ (visible → again.skipped = scanned.skipped)

theorem ScansAgain.refl (scanner : Scanner) (extractor : Extractor α) (root : Path)
    (tree : FileTree) (visible : Prop) : ScansAgain scanner extractor root tree tree visible :=
  fun scanned done => ⟨scanned, done, rfl, fun _ => rfl⟩

theorem ScansAgain.trans {between : FileTree} {upper lower visible : Prop}
    (first : ScansAgain scanner extractor root before between upper)
    (second : ScansAgain scanner extractor root between after lower)
    (both : visible → upper ∧ lower) :
    ScansAgain scanner extractor root before after visible := by
  intro scanned done
  obtain ⟨middle, once, inventory, skipped⟩ := first scanned done
  obtain ⟨again, twice, inventoryAgain, skippedAgain⟩ := second middle once
  refine ⟨again, twice, inventoryAgain.trans inventory, fun holds => ?_⟩
  obtain ⟨up, low⟩ := both holds
  exact (skippedAgain low).trans (skipped up)

theorem examine_congr {base : Path} {files : List Path} (taken : List String)
    (same : ∀ path ∈ files, after.readText path = before.readText path) :
    examine after extractor base taken files = examine before extractor base taken files := by
  induction files generalizing taken with
  | nil => rfl
  | cons path rest ih =>
    obtain ⟨here, others⟩ := List.forall_mem_cons.1 same
    have record : recordOf after extractor base path = recordOf before extractor base path := by
      rw [recordOf, recordOf, here]
    simp only [examine, record, ih _ others]

theorem scansAgain_of_found {entries now : Entries} {visible : Prop}
    (opened : openRoot? before root = some (location, entries))
    (reopened : openRoot? after root = some (location, now))
    (files : (scanner.found after root).files = (scanner.found before root).files)
    (texts : ∀ path ∈ (scanner.found before root).files,
      after.readText path = before.readText path)
    (failures : visible → (scanner.found after root).failures =
      (scanner.found before root).failures) :
    ScansAgain scanner extractor root before after visible := by
  intro scanned done
  obtain ⟨inventory, aggregated, _, once⟩ := scan_of_opened scanner extractor opened
  obtain ⟨same, reaggregated, _, twice⟩ := scan_of_opened scanner extractor reopened
  rw [files, examine_congr [] texts] at reaggregated twice
  rw [once] at done
  cases done
  rw [aggregated] at reaggregated
  cases reaggregated
  refine ⟨_, congrArg Traced.result twice, rfl, fun holds => ?_⟩
  rw [failures holds]

/-- An empty directory where there was none is as good as none. -/
theorem scansAgain_of_absent {visible : Prop} (absent : openRoot? before root = none)
    (bare : ∀ found entries, openRoot? after root = some (found, entries) → entries = []) :
    ScansAgain scanner extractor root before after visible := by
  intro scanned done
  have allowed : scanner.allowMissingRoot = true ∧
      scanned = ⟨.empty root.rootLabel, []⟩ := by
    unfold scan at done
    rw [absent] at done
    simp only at done
    split at done
    · rename_i allowed
      cases done
      exact ⟨allowed, rfl⟩
    · cases done
  obtain ⟨allowed, rfl⟩ := allowed
  cases reopened : openRoot? after root with
  | none =>
    refine ⟨_, ?_, rfl, fun _ => rfl⟩
    unfold scan
    rw [reopened]
    simp only [allowed, if_true]
  | some opened =>
    obtain ⟨found, entries⟩ := opened
    obtain rfl := bare found entries reopened
    have nothing : scanner.found after root = ⟨[], []⟩ := by
      simp [Scanner.found, visits, reopened, walkEntries, discover]
    obtain ⟨inventory, aggregated, _, twice⟩ := scan_of_opened scanner extractor reopened
    rw [nothing] at aggregated twice
    cases aggregated
    exact ⟨_, congrArg Traced.result twice, rfl, fun _ => rfl⟩

theorem visits_of_opened (tree : SoundTree) {entries : Entries} (unlinked : tree.Unlinked)
    (opened : openRoot? tree root = some (location, entries)) :
    scanner.visits tree root = (Node.directory entries).visits root := by
  obtain ⟨reached, directory⟩ := openRoot?_eq_some opened
  have fits := (locate_eq_ok reached).2.2.1
  rw [visits, opened, Node.visits, if_neg (Nat.not_lt.2 fits)]
  exact walkEntries_eq_visitsIn (Node.WellFormed.at? tree.wellFormed directory)
    (unlinked.at? directory) tree scanner.followLinks ⟨location, root⟩ []

def keepSelected (scanner : Scanner) : Visit → Option Path
  | .file path => if scanner.selects path then some path else none
  | .failed _ => none

def keepFailed : Visit → Option WalkError
  | .file _ => none
  | .failed error => some error

theorem found_files : (scanner.found tree root).files =
    (scanner.visits tree root).filterMap scanner.keepSelected := rfl

theorem found_failures : (scanner.found tree root).failures =
    (scanner.visits tree root).filterMap keepFailed := rfl

def Ignores (scanner : Scanner) (name : Name) : Prop :=
  scanner.patterns.any (·.accepts (decodeLossy name)) = false

section Put

variable {tree : SoundTree} {directory : Location} {name : Name} {node : Node} {entries : Entries}

theorem not_selected {names : Location} (admits : tree.Admits directory name node)
    (ignored : scanner.Ignores name) (usable : root.bytes ≠ [])
    (opened : tree.kindAt? location = some .directory)
    (split : location ++ names = directory ++ [name]) :
    scanner.selects (pathBelow root names) = false := by
  have deeper : names ≠ [] := by
    rintro rfl
    rw [List.append_nil] at split
    exact admits.not_directory (split ▸ opened)
  have valid : ∀ other ∈ names, NameValid other := by
    intro other member
    refine valid_of_at? (admits.wellFormed tree.wellFormed) admits.at?_put_self other ?_
    rw [← split]
    exact List.mem_append_right _ member
  have last : names.getLast? = some name := by
    have ends := congrArg List.getLast? split
    rw [List.getLast?_append, List.getLast?_append] at ends
    obtain ⟨first, rest, rfl⟩ := List.exists_cons_of_ne_nil deeper
    simpa using ends
  rw [selects_pathBelow usable valid deeper, last]
  exact ignored

/-- A file that is looked for is neither the one written nor in a directory that is new. -/
theorem readText_put (unlinked : tree.Unlinked)
    (admits : tree.Admits directory name node)
    (ignored : ∀ content, node = .file content → scanner.Ignores name)
    (opened : openRoot? tree root = some (location, entries)) {path : Path}
    (member : path ∈ (scanner.found tree root).files) :
    (tree.put (directory ++ [name]) node).readText path = tree.readText path := by
  obtain ⟨reached, there⟩ := openRoot?_eq_some opened
  rw [found_files, visits_of_opened tree unlinked opened] at member
  obtain ⟨visit, visited, kept⟩ := List.mem_filterMap.1 member
  cases visit with
  | failed error => cases kept
  | file seen =>
    rw [keepSelected] at kept
    split at kept
    · rename_i selected
      cases kept
      obtain ⟨names, content, rfl, below⟩ :=
        file_of_visit (Node.WellFormed.at? tree.wellFormed there) visited
      have file : tree.root.at? (location ++ names) = some (.file content) := by
        rw [at?_append, there]
        exact below
      have other : location ++ names ≠ directory ++ [name] := by
        intro same
        rcases admits.change with ⟨_, free⟩ | ⟨_, written, _⟩
        · rw [← same, kindAt?_of_at? file] at free
          cases free
        · have missed := not_selected admits (ignored _ written)
            (locate_eq_ok reached).1 (kindAt?_of_at? there) same
          rw [missed] at selected
          cases selected
      have kind := admits.kindAt?_put (location ++ names)
      rw [if_neg other, kindAt?_of_at? file] at kind
      obtain ⟨now, still⟩ := kindAt?_directory.1 (admits.grown.directory (kindAt?_of_at? there))
      have after := readBytes_pathBelow ⟨_, admits.wellFormed tree.wellFormed⟩
        (admits.grown.locate reached) still (kindAt?_file.1 kind)
      rw [readText, readText, readBytes_pathBelow tree reached there file, after]
    · cases kept

section Found

variable {now : Entries} (unlinked : tree.Unlinked)
  (admits : tree.Admits directory name node)
  (opened : openRoot? tree root = some (location, entries))
  (reopened : openRoot? (tree.put (directory ++ [name]) node) root = some (location, now))

include unlinked admits opened reopened

theorem found_files_put (ignored : ∀ content, node = .file content → scanner.Ignores name) :
    (scanner.found (tree.put (directory ++ [name]) node) root).files =
      (scanner.found tree root).files := by
  obtain ⟨reached, there⟩ := openRoot?_eq_some opened
  have missed : ∀ content rest, node = .file content → location ++ rest = directory ++ [name] →
      scanner.selects (pathBelow root rest) = false := fun content rest written =>
    not_selected admits (ignored content written) (locate_eq_ok reached).1
      (kindAt?_of_at? there)
  rw [found_files, found_files, visits_of_opened tree unlinked opened,
    visits_of_opened ⟨_, admits.wellFormed tree.wellFormed⟩ (admits.unlinked unlinked) reopened]
  refine visits_put admits there (openRoot?_eq_some reopened).2 ?_ ?_
  · intro rest split
    rcases admits.change with ⟨rfl, _⟩ | ⟨content, rfl, _⟩
    · rw [Node.Silent, Node.visits]
      split <;> rfl
    · simp [Node.Silent, Node.visits, keepSelected, missed content rest rfl split]
  · intro rest old split held
    rcases admits.change with ⟨_, free⟩ | ⟨content, written, free | ⟨bytes, file⟩⟩
    · rw [kindAt?_of_at? held] at free
      cases free
    · rw [kindAt?_of_at? held] at free
      cases free
    · rw [kindAt?_file.1 file] at held
      cases held
      simp [Node.Silent, Node.visits, keepSelected, missed content rest written split]

theorem found_failures_put
    (short : ∀ rest, node = .directory [] → location ++ rest = directory ++ [name] →
      (pathBelow root rest).bytes.length ≤ pathLimit) :
    (scanner.found (tree.put (directory ++ [name]) node) root).failures =
      (scanner.found tree root).failures := by
  obtain ⟨_, there⟩ := openRoot?_eq_some opened
  rw [found_failures, found_failures, visits_of_opened tree unlinked opened,
    visits_of_opened ⟨_, admits.wellFormed tree.wellFormed⟩ (admits.unlinked unlinked) reopened]
  refine visits_put admits there (openRoot?_eq_some reopened).2 ?_ ?_
  · intro rest split
    rcases admits.change with ⟨rfl, _⟩ | ⟨content, rfl, _⟩
    · rw [Node.Silent, Node.visits, if_neg (Nat.not_lt.2 (short rest rfl split))]
      rfl
    · rfl
  · intro rest old split held
    rcases admits.bare with free | ⟨bytes, file⟩
    · rw [kindAt?_of_at? held] at free
      cases free
    · rw [kindAt?_file.1 file] at held
      cases held
      rfl

end Found

/-- The names below the root of what was put there make no path too long to be opened. -/
def WithinReach (tree : FileTree) (root : Path) (made : List Location) : Prop :=
  ∀ location names, tree.locate root = .ok location → location ++ names ∈ made →
    (pathBelow root names).bytes.length ≤ pathLimit

theorem scansAgain_put (tree : SoundTree) {openable : Prop} (unlinked : tree.Unlinked)
    (admits : tree.Admits directory name node)
    (ignored : ∀ content, node = .file content → scanner.Ignores name)
    (opens : OpensAt openable root location tree)
    (reopens : OpensAt openable root location (tree.put (directory ++ [name]) node)) :
    ScansAgain scanner extractor root tree (tree.put (directory ++ [name]) node)
      (node = .directory [] →
        WithinReach (tree.put (directory ++ [name]) node) root [directory ++ [name]]) := by
  cases opened : openRoot? tree root with
  | none =>
    -- the root opens now only if it is the new directory
    refine scansAgain_of_absent opened fun found entries reopened => ?_
    obtain ⟨openable, rfl, there⟩ := (reopens found entries).1 reopened
    have kind := admits.kindAt?_put found
    rw [kindAt?_of_at? there] at kind
    split at kind
    · rename_i same
      rw [same, admits.at?_put_self] at there
      cases there
      rcases admits.change with ⟨made, _⟩ | ⟨_, written, _⟩
      · cases made
        rfl
      · cases written
    · obtain ⟨old, was⟩ := kindAt?_directory.1 kind.symm
      rw [(opens found old).2 ⟨openable, rfl, was⟩] at opened
      cases opened
  | some place =>
    obtain ⟨found, entries⟩ := place
    obtain ⟨openable, rfl, there⟩ := (opens found entries).1 opened
    obtain ⟨now, still⟩ := kindAt?_directory.1 (admits.grown.directory (kindAt?_of_at? there))
    have reopened := (reopens found now).2 ⟨openable, rfl, still⟩
    have files := found_files_put unlinked admits opened reopened ignored
    have texts := fun path (member : path ∈ (scanner.found tree root).files) =>
      readText_put unlinked admits ignored opened member
    refine scansAgain_of_found opened reopened files texts fun within => ?_
    refine found_failures_put unlinked admits opened reopened fun rest made split => ?_
    exact within made found rest (openRoot?_eq_some reopened).1 (List.mem_singleton.2 split)

end Put

theorem WithinReach.of_grown (grown : Grown before after) {made more : List Location}
    (within : WithinReach after root more) (fewer : ∀ place ∈ made, place ∈ more) :
    WithinReach before root made :=
  fun _ names reached member => within _ names (grown.locate reached) (fewer _ member)

theorem scansAgain_made {before : SoundTree} {openable : Prop} {made : List Location}
    (steps : Made before made after) (unlinked : before.Unlinked)
    (opens : ∀ tree, Grown before tree → tree.Unlinked → OpensAt openable root location tree) :
    ScansAgain scanner extractor root before after (WithinReach after root made) := by
  obtain ⟨before, wellFormed⟩ := before
  dsimp only at steps unlinked opens ⊢
  induction steps with
  | nothing tree => exact .refl scanner extractor root tree _
  | @directory before after directory name made admits rest ih =>
    have step : ScansAgain scanner extractor root before _ _ :=
      scansAgain_put ⟨before, wellFormed⟩ unlinked admits (by simp)
        (opens before (.refl before) unlinked) (opens _ admits.grown (admits.unlinked unlinked))
    have run := ih (admits.wellFormed wellFormed) (admits.unlinked unlinked)
      fun tree grown => opens tree (admits.grown.trans grown)
    refine step.trans run fun within => ⟨fun _ => ?_, ?_⟩
    · exact within.of_grown rest.grown (by simp)
    · exact within.of_grown (.refl after) (by simp +contextual)

theorem scansAgain_written {before : SoundTree} {openable : Prop} {path : Path} {content : Bytes}
    {made : List Location} {between : FileTree} {directory : Location} {name : Name}
    (written : Written before path content made between directory name)
    (unlinked : before.Unlinked) (ignored : scanner.Ignores name)
    (opens : ∀ tree, Grown before tree → tree.Unlinked → OpensAt openable root location tree) :
    ScansAgain scanner extractor root before
      (between.put (directory ++ [name]) (.file content)) (WithinReach between root made) := by
  have grown := written.steps.grown
  have linkless := written.steps.unlinked unlinked
  have run : ScansAgain scanner extractor root before between _ :=
    scansAgain_made written.steps unlinked opens
  have step : ScansAgain scanner extractor root between _ _ :=
    scansAgain_put ⟨between, written.steps.wellFormed before.wellFormed⟩ linkless written.admits
      (fun _ _ => ignored) (opens between grown linkless)
      (opens _ (grown.trans written.admits.grown) (written.admits.unlinked linkless))
  exact run.trans step fun within => ⟨within, by simp⟩

end CodeInventory.Scanner
