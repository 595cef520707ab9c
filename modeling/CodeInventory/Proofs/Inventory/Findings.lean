import CodeInventory.Proofs.Inventory.Keys
import CodeInventory.Proofs.Inventory.Rescan

namespace CodeInventory.Scanner

open CodeInventory.FileTree CodeInventory.Path CodeInventory.Source CodeInventory.Text

variable {α : Type} {scanner : Scanner} {tree : FileTree} {extractor : Extractor α}
  {base root path : Path} {location : Location} {entries : Entries}

theorem visits_eq_walk (scanner : Scanner)
    (opened : openRoot? tree root = some (location, entries)) :
    scanner.visits tree root =
      tree.walkEntries scanner.followLinks ⟨location, root⟩ [] entries := by
  rw [visits, opened]

theorem remaining_of_opened (opened : openRoot? tree root = some (location, entries)) :
    Remaining tree ⟨location, root⟩ entries := .all (openRoot?_eq_some opened).2

theorem keepSelected_eq_some {visit : Visit} :
    scanner.keepSelected visit = some path ↔ visit = .file path ∧ scanner.selects path = true := by
  cases visit with
  | failed error => simp [keepSelected]
  | file seen =>
    by_cases selected : scanner.selects seen = true
    · simp [keepSelected, selected]
      rintro rfl
      exact selected
    · simp [keepSelected, selected]
      rintro rfl
      simpa using selected

theorem mem_found_iff : path ∈ (scanner.found tree root).files ↔
    .file path ∈ scanner.visits tree root ∧ scanner.selects path = true := by
  simp only [found_files, List.mem_filterMap, keepSelected_eq_some]
  constructor
  · rintro ⟨visit, visited, rfl, selected⟩
    exact ⟨visited, selected⟩
  · rintro ⟨visited, selected⟩
    exact ⟨_, visited, rfl, selected⟩

theorem mem_failures_iff {error : WalkError} :
    error ∈ (scanner.found tree root).failures ↔ .failed error ∈ scanner.visits tree root := by
  rw [found_failures, List.mem_filterMap]
  constructor
  · rintro ⟨visit, visited, kept⟩
    cases visit with
    | file path => cases kept
    | failed other =>
      cases kept
      exact visited
  · intro visited
    exact ⟨.failed error, visited, rfl⟩

theorem map_filterMap_sublist {β γ δ : Type} {keep : β → Option γ} {label : γ → δ} {name : β → δ}
    (agree : ∀ item kept, keep item = some kept → label kept = name item) (items : List β) :
    ((items.filterMap keep).map label).Sublist (items.map name) := by
  induction items with
  | nil => exact .slnil
  | cons item rest ih =>
    cases kept : keep item with
    | none =>
      rw [List.filterMap_cons_none kept]
      exact ih.cons _
    | some result =>
      rw [List.filterMap_cons_some kept, List.map_cons, List.map_cons, agree item result kept]
      exact ih.cons_cons _

theorem skippedOf_paths_sublist (taken : List String) (files : List Path) :
    ((skippedOf (examine tree extractor base taken files)).map (·.path)).Sublist files := by
  have shorter : ((skippedOf (examine tree extractor base taken files)).map (·.path)).Sublist
      ((examine tree extractor base taken files).map (·.1)) := by
    refine map_filterMap_sublist ?_ _
    rintro ⟨path, record | cause⟩ kept isKept
    · cases isKept
      rfl
    · cases isKept
  rwa [examine_paths] at shorter

section Opened

variable {tree : SoundTree} (opened : openRoot? tree root = some (location, entries))

include opened

theorem visits_nodup (scanner : Scanner) : ((scanner.visits tree root).map Visit.path).Nodup := by
  have nonempty := (locate_eq_ok (openRoot?_eq_some opened).1).1
  rw [visits_eq_walk scanner opened]
  exact visits_distinct (remaining_of_opened opened) nonempty _ _

theorem names_of_found (found : path ∈ (scanner.found tree root).files) :
    ∃ names, names ≠ [] ∧ (∀ name ∈ names, NameValid name) ∧ path = pathBelow root names := by
  obtain ⟨visited, _⟩ := mem_found_iff.1 found
  rw [visits_eq_walk scanner opened] at visited
  exact names_of_visit (remaining_of_opened opened) visited

theorem found_nodup (scanner : Scanner) : (scanner.found tree root).files.Nodup := by
  have distinct := visits_nodup opened scanner
  rw [found_files, ← List.map_id (List.filterMap ..)]
  refine (map_filterMap_sublist ?_ _).nodup distinct
  intro visit kept selected
  rw [(keepSelected_eq_some.1 selected).1]
  rfl

theorem failures_nodup (scanner : Scanner) :
    ((scanner.found tree root).failures.map (·.path)).Nodup := by
  have distinct := visits_nodup opened scanner
  rw [found_failures]
  refine (map_filterMap_sublist ?_ _).nodup distinct
  rintro (seen | error) kept isKept
  · cases isKept
  · cases isKept
    rfl

theorem skipped_nodup {scanned : Scanned α}
    (done : (scanner.scan tree extractor root).result = .ok scanned) :
    (scanned.skipped.map (·.path)).Nodup := by
  obtain ⟨inventory, _, _, result⟩ := scan_of_opened scanner extractor opened
  rw [result] at done
  cases done
  have files := @skippedOf_paths_sublist α tree extractor (root.parent?.getD root) []
    (scanner.found tree root).files
  rw [List.map_append, List.map_map]
  refine (List.Sublist.append (List.Sublist.refl _) files).nodup ?_
  refine List.nodup_append.2 ⟨failures_nodup opened scanner, found_nodup opened scanner, ?_⟩
  -- what failed and what is a file are different visits, so their paths differ
  rintro failed isFailed path found rfl
  obtain ⟨error, member, same⟩ := List.mem_map.1 isFailed
  have equal := List.inj_on_of_nodup_map (visits_nodup opened scanner)
    (mem_failures_iff.1 member) (mem_found_iff.1 found).1 same
  cases equal

theorem keys_nodup (scanner : Scanner)
    (isText : ∀ names, pathBelow root names ∈ (scanner.found tree root).files →
      (∀ name ∈ names, NameValid name) → ∀ name ∈ names, IsText name) :
    ((scanner.found tree root).files.map (keyOf root)).Nodup := by
  have nonempty := (locate_eq_ok (openRoot?_eq_some opened).1).1
  refine (found_nodup opened scanner).map_on ?_
  intro first isFirst second isSecond same
  obtain ⟨names, deeper, valid, rfl⟩ := names_of_found opened isFirst
  obtain ⟨others, deeperOther, validOther, rfl⟩ := names_of_found opened isSecond
  rw [keyOf_inj nonempty valid validOther (isText names isFirst valid)
    (isText others isSecond validOther) deeper deeperOther same]

end Opened

theorem path_of_recordOf {record : FileRecord α}
    (done : recordOf tree extractor base path = .ok record) :
    record.path = path.relativeKey base := by
  unfold recordOf at done
  split at done
  · cases done
  · cases done
    rfl

theorem withFreeKeys_subset (taken : List String) (records : List (FileRecord α)) :
    withFreeKeys taken records ⊆ records := by
  induction records generalizing taken with
  | nil => exact List.nil_subset _
  | cons record rest ih =>
    rw [withFreeKeys]
    split
    · exact List.subset_cons_of_subset _ (ih taken)
    · exact List.cons_subset_cons _ (ih _)

theorem ok_of_toOption {ε β : Type} {result : Except ε β} {value : β}
    (some : result.toOption = some value) : result = .ok value := by
  cases result with
  | error cause => cases some
  | ok other =>
    cases some
    rfl

theorem record_of_examined {taken : List String} {files : List Path} {record : FileRecord α}
    (member : record ∈ recordsOf (examine tree extractor base taken files)) :
    ∃ path ∈ files, recordOf tree extractor base path = .ok record := by
  rw [recordsOf_examine] at member
  obtain ⟨path, found, isRecord⟩ := List.mem_filterMap.1 (withFreeKeys_subset taken _ member)
  exact ⟨path, found, ok_of_toOption isRecord⟩

def skipOf? (tree : FileTree) (extractor : Extractor α) (base path : Path) : Option Skipped :=
  match recordOf tree extractor base path with
  | .error cause => some ⟨path, cause⟩
  | .ok _ => none

theorem examine_of_distinct {files : List Path} {taken : List String}
    (distinct : (files.map (·.relativeKey base)).Nodup)
    (fresh : ∀ path ∈ files, path.relativeKey base ∉ taken) :
    examine tree extractor base taken files =
      files.map fun path => (path, recordOf tree extractor base path) := by
  induction files generalizing taken with
  | nil => rfl
  | cons path rest ih =>
    obtain ⟨different, tail⟩ := List.nodup_cons.1 distinct
    obtain ⟨first, others⟩ := List.forall_mem_cons.1 fresh
    rw [examine, List.map_cons]
    cases reading : tree.readText path with
    | error fault =>
      have failed : recordOf tree extractor base path = .error (.unreadable path fault) := by
        rw [recordOf, reading]
      rw [failed]
      simp only [ih tail others]
    | ok content =>
      have done : recordOf tree extractor base path =
          .ok (.ofText (path.relativeKey base) content (extractor.extract content)) := by
        rw [recordOf, reading]
      have stillFresh : ∀ other ∈ rest,
          other.relativeKey base ∉ path.relativeKey base :: taken := by
        intro other member held
        rcases List.mem_cons.1 held with same | held
        · exact different (List.mem_map.2 ⟨other, member, same⟩)
        · exact others other member held
      rw [done]
      simp only [FileRecord.ofText, first, if_false, ih tail stillFresh]

theorem scan_of_distinct (scanner : Scanner) (extractor : Extractor α)
    (opened : openRoot? tree root = some (location, entries))
    (distinct : ((scanner.found tree root).files.map (keyOf root)).Nodup) :
    ∃ scanned, (scanner.scan tree extractor root).result = .ok scanned ∧
      scanned.inventory.root = root.rootLabel ∧
      scanned.inventory.records = ((scanner.found tree root).files.filterMap fun path =>
        (recordOf tree extractor (root.parent?.getD root) path).toOption).reverse ∧
      scanned.skipped =
        (scanner.found tree root).failures.map (fun error => ⟨error.path, .walk error⟩) ++
          (scanner.found tree root).files.filterMap
            (skipOf? tree extractor (root.parent?.getD root)) := by
  obtain ⟨inventory, aggregated, holds, scanned⟩ := scan_of_opened scanner extractor opened
  obtain ⟨_, reaggregated, named, _⟩ := Inventory.aggregate_of_distinct root.rootLabel _
    (@examine_keys_distinct α tree extractor (root.parent?.getD root) []
      (scanner.found tree root).files).1
  cases aggregated.symm.trans reaggregated
  rw [examine_of_distinct distinct (by simp)] at holds scanned
  refine ⟨_, congrArg Traced.result scanned, named, ?_, ?_⟩
  · rw [holds, recordsOf, List.filterMap_map]
    rfl
  · simp only [skippedOf, List.filterMap_map]
    rfl

end CodeInventory.Scanner
