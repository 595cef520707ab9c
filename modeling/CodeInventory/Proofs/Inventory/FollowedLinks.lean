import CodeInventory.Proofs.FileTree.Following
import CodeInventory.Proofs.Inventory.Findings

namespace CodeInventory.Scanner

open CodeInventory.FileTree CodeInventory.Path CodeInventory.Source CodeInventory.Text

variable {α : Type} {scanner : Scanner} {tree : FileTree} {extractor : Extractor α}
  {base root path : Path} {location : Location} {entries : Entries}

def following (scanner : Scanner) (follow : Bool) : Scanner :=
  { scanner with followLinks := follow }

def TextNames (node : Node) : Prop :=
  ∀ location found, node.at? location = some found → ∀ name ∈ location, IsText name

def namesAreText : Node → Bool
  | .directory entries => entries.all fun entry => (decode? entry.1).isSome
  | _ => true

theorem textNames_of_all {node : Node} (checked : node.all namesAreText = true) :
    TextNames node := by
  intro location found there
  induction location generalizing node with
  | nil => simp
  | cons name rest ih =>
    obtain ⟨child, here, below⟩ := Option.bind_eq_some_iff.1 there
    refine List.forall_mem_cons.2 ⟨?_, ih (Node.all_child checked here) below⟩
    cases node with
    | file content => cases here
    | link target => cases here
    | directory entries =>
      have decodes := List.all_eq_true.1 (Node.all_self checked) _ (mem_of_get? here)
      obtain ⟨text, decoded⟩ := Option.isSome_iff_exists.1 decodes
      exact ⟨text, decode?_eq_some_iff.1 decoded⟩

theorem TextNames.keys_nodup {tree : SoundTree} (names : TextNames tree.root)
    (opened : openRoot? tree root = some (location, entries)) (scanner : Scanner) :
    ((scanner.found tree root).files.map (keyOf root)).Nodup := by
  have nonempty := (locate_eq_ok (openRoot?_eq_some opened).1).1
  refine Scanner.keys_nodup opened scanner fun below found valid => ?_
  obtain ⟨visited, _⟩ := mem_found_iff.1 found
  rw [visits_eq_walk scanner opened] at visited
  refine meets_of_visit ?_ (remaining_of_opened opened) nonempty visited valid rfl
  intro above name node there
  exact names _ node there name (by simp)

section Opened

variable {tree : SoundTree} (opened : openRoot? tree root = some (location, entries))

include opened

theorem visits_sublist_following (scanner : Scanner) :
    ((scanner.following false).visits tree root).Sublist
      ((scanner.following true).visits tree root) := by
  rw [visits_eq_walk _ opened, visits_eq_walk _ opened]
  exact walk_sublist_following (remaining_of_opened opened) [] []

theorem beyondLink_of_new {visit : Visit}
    (visited : visit ∈ (scanner.following true).visits tree root)
    (new : visit ∉ (scanner.following false).visits tree root) :
    BeyondLink tree ⟨location, root⟩ visit.path := by
  rw [visits_eq_walk _ opened] at visited new
  exact (beyondLink_of_visit (remaining_of_opened opened) [] [] visited).resolve_left new

theorem files_sublist_following (scanner : Scanner) :
    ((scanner.following false).found tree root).files.Sublist
      ((scanner.following true).found tree root).files :=
  (visits_sublist_following opened scanner).filterMap _

theorem failures_sublist_following (scanner : Scanner) :
    ((scanner.following false).found tree root).failures.Sublist
      ((scanner.following true).found tree root).failures :=
  (visits_sublist_following opened scanner).filterMap _

theorem beyondLink_of_new_file
    (found : path ∈ ((scanner.following true).found tree root).files)
    (new : path ∉ ((scanner.following false).found tree root).files) :
    BeyondLink tree ⟨location, root⟩ path := by
  obtain ⟨visited, selected⟩ := mem_found_iff.1 found
  refine beyondLink_of_new opened visited fun before => new ?_
  exact mem_found_iff.2 ⟨before, selected⟩

theorem beyondLink_of_new_failure {error : WalkError}
    (failed : error ∈ ((scanner.following true).found tree root).failures)
    (new : error ∉ ((scanner.following false).found tree root).failures) :
    BeyondLink tree ⟨location, root⟩ error.path := by
  refine beyondLink_of_new opened (mem_failures_iff.1 failed) fun before => new ?_
  exact mem_failures_iff.2 before

end Opened

/-- One scan has all that the other has, in the same order, and what is new in it lies beyond a
link. -/
structure OnlyAdds (tree : FileTree) (root : Path) (scanned more : Scanned α) : Prop where
  label : more.inventory.root = scanned.inventory.root
  records : scanned.inventory.records.Sublist more.inventory.records
  skipped : scanned.skipped.Sublist more.skipped
  distinct : (more.skipped.map (·.path)).Nodup
  newRecords : ∀ record ∈ more.inventory.records, record ∉ scanned.inventory.records →
    ∃ location path, tree.locate root = .ok location ∧ record.path = keyOf root path ∧
      BeyondLink tree ⟨location, root⟩ path
  newSkipped : ∀ skip ∈ more.skipped, skip ∉ scanned.skipped →
    ∃ location, tree.locate root = .ok location ∧ BeyondLink tree ⟨location, root⟩ skip.path

theorem path_of_skipOf? {skip : Skipped} (skipped : skipOf? tree extractor base path = some skip) :
    skip.path = path := by
  unfold skipOf? at skipped
  split at skipped
  · cases skipped
    rfl
  · cases skipped

theorem scan_of_closed (scanner : Scanner) (extractor : Extractor α) (follow : Bool)
    (closed : openRoot? tree root = none) :
    (scanner.following follow).scan tree extractor root = scanner.scan tree extractor root := by
  rw [scan, scan, closed]
  rfl

theorem scan_closed_skips_nothing {scanned : Scanned α} (closed : openRoot? tree root = none)
    (done : (scanner.scan tree extractor root).result = .ok scanned) : scanned.skipped = [] := by
  rw [scan, closed] at done
  simp only at done
  split at done
  · cases done
    rfl
  · cases done

theorem onlyAdds_of_opened {tree : SoundTree} (scanner : Scanner) (extractor : Extractor α)
    (names : TextNames tree.root)
    (opened : openRoot? tree root = some (location, entries)) :
    ∃ scanned more,
      ((scanner.following false).scan tree extractor root).result = .ok scanned ∧
      ((scanner.following true).scan tree extractor root).result = .ok more ∧
      OnlyAdds tree root scanned more := by
  have reached := (openRoot?_eq_some opened).1
  have files := files_sublist_following opened scanner
  have failures := failures_sublist_following opened scanner
  obtain ⟨scanned, done, label, records, skipped⟩ := scan_of_distinct (scanner.following false)
    extractor opened (names.keys_nodup opened _)
  obtain ⟨more, doneMore, labelMore, recordsMore, skippedMore⟩ :=
    scan_of_distinct (scanner.following true) extractor opened (names.keys_nodup opened _)
  refine ⟨scanned, more, done, doneMore, labelMore.trans label.symm, ?_, ?_,
    skipped_nodup opened doneMore, ?_, ?_⟩
  · rw [records, recordsMore]
    exact (files.filterMap _).reverse
  · rw [skipped, skippedMore]
    exact (failures.map _).append (files.filterMap _)
  · intro record member new
    rw [recordsMore, List.mem_reverse] at member
    rw [records, List.mem_reverse] at new
    obtain ⟨path, found, isRecord⟩ := List.mem_filterMap.1 member
    refine ⟨location, path, reached, path_of_recordOf (ok_of_toOption isRecord), ?_⟩
    refine beyondLink_of_new_file opened found fun before => new ?_
    exact List.mem_filterMap.2 ⟨path, before, isRecord⟩
  · intro skip member new
    refine ⟨location, reached, ?_⟩
    rw [skippedMore] at member
    rw [skipped, List.mem_append, not_or] at new
    rcases List.mem_append.1 member with member | member
    · obtain ⟨error, failed, rfl⟩ := List.mem_map.1 member
      refine beyondLink_of_new_failure opened failed fun before => new.1 ?_
      exact List.mem_map.2 ⟨error, before, rfl⟩
    · obtain ⟨path, found, isSkip⟩ := List.mem_filterMap.1 member
      rw [path_of_skipOf? isSkip]
      refine beyondLink_of_new_file opened found fun before => new.2 ?_
      exact List.mem_filterMap.2 ⟨path, before, isSkip⟩

/-- A scan succeeds with links followed if it does without, and then it only adds. -/
theorem following_links_only_adds (scanner : Scanner) (tree : SoundTree) (extractor : Extractor α)
    (root : Path) (follow : Bool) (outcome : Scanned α) (names : TextNames tree.root)
    (succeeds : ((scanner.following follow).scan tree extractor root).result = .ok outcome) :
    ∃ scanned more,
      ((scanner.following false).scan tree extractor root).result = .ok scanned ∧
      ((scanner.following true).scan tree extractor root).result = .ok more ∧
      OnlyAdds tree root scanned more := by
  cases opened : openRoot? tree root with
  | some place => exact onlyAdds_of_opened scanner extractor names opened
  | none =>
    rw [scan_of_closed scanner extractor follow opened] at succeeds
    have nothing := scan_closed_skips_nothing opened succeeds
    refine ⟨outcome, outcome, ?_, ?_, rfl, List.Sublist.refl _, List.Sublist.refl _, ?_, ?_, ?_⟩
    · rwa [scan_of_closed scanner extractor false opened]
    · rwa [scan_of_closed scanner extractor true opened]
    · simp [nothing]
    · exact fun record member new => absurd member new
    · exact fun skip member new => absurd member new

/-- A file, a file that is no text, a link into itself and a link out of the root. -/
def entwinedProject : SoundTree := .ofEdits
  [.makeDirectories (.ofString "lib"), .writeFile (.ofString "lib/c.ts") [],
    .makeDirectories (.ofString "src"), .writeFile (.ofString "src/a.ts") [],
    .writeFile (.ofString "src/b.ts") [0xff],
    .makeLink (.ofString "src/back") (.ofString "."),
    .makeLink (.ofString "src/out") (.ofString "../lib")]

def everythingScanner : Scanner := ⟨[[.anySequence]], false, false⟩

theorem entwinedProject_adds :
    ∃ scanned more,
      ((everythingScanner.following false).scan entwinedProject .behaviors
        (.ofString "src")).result = .ok scanned ∧
      ((everythingScanner.following true).scan entwinedProject .behaviors
        (.ofString "src")).result = .ok more ∧
      OnlyAdds entwinedProject (.ofString "src") scanned more ∧
      (scanned.inventory.size, scanned.skipped.length) = (1, 1) ∧
      (more.inventory.size, more.skipped.length) = (2, 2) := by
  have once : ((everythingScanner.following false).scan entwinedProject .behaviors
      (.ofString "src")).result.map (fun scanned =>
        (scanned.inventory.size, scanned.skipped.length)) = .ok (1, 1) := by cbv
  have twice : ((everythingScanner.following true).scan entwinedProject .behaviors
      (.ofString "src")).result.map (fun scanned =>
        (scanned.inventory.size, scanned.skipped.length)) = .ok (2, 2) := by cbv
  cases succeeds : ((everythingScanner.following false).scan entwinedProject .behaviors
      (.ofString "src")).result with
  | error cause =>
    rw [succeeds] at once
    cases once
  | ok outcome =>
    obtain ⟨scanned, more, done, doneMore, adds⟩ :=
      following_links_only_adds everythingScanner entwinedProject .behaviors (.ofString "src") false
        outcome (textNames_of_all (by cbv)) succeeds
    rw [done] at once
    rw [doneMore] at twice
    exact ⟨scanned, more, succeeds.symm.trans done, doneMore, adds, Except.ok.inj once,
      Except.ok.inj twice⟩

end CodeInventory.Scanner
