import CodeInventory.Proofs.FileTree.Spelling
import CodeInventory.Proofs.Glob.Notation
import CodeInventory.Proofs.Inventory.Findings

namespace CodeInventory.Scanner

open CodeInventory.FileTree CodeInventory.Path CodeInventory.Source CodeInventory.Text

variable {α : Type} {scanner : Scanner} {tree : FileTree} {extractor : Extractor α}
  {root first second : Path} {name : Name} {location : Location} {entries : Entries}

theorem rootLabel_of_name (named : root.fileName? = some name) :
    root.rootLabel = decodeLossy name := by
  rw [rootLabel, named]

theorem fileName?_respelled (same : first.components = second.components) :
    first.fileName? = second.fileName? := by
  rw [fileName?, fileName?, same]

/-- How the key of a file below such a root is made up. -/
structure KeyedBelow (root base : Path) (name : Name) (path : Path) (names : Location) : Prop where
  deeper : names ≠ []
  valid : ∀ part ∈ names, NameValid part
  below : path = pathBelow root names
  components : path.components = root.components ++ names.map .name
  stripped : componentsBelow? base.components path.components =
    some (.name name :: names.map .name)
  key : path.relativeKey base = "/".intercalate (root.rootLabel :: names.map decodeLossy)

theorem keyedBelow_of_found {tree : SoundTree} {base path : Path}
    (opened : openRoot? tree root = some (location, entries)) (named : root.fileName? = some name)
    (up : root.parent? = some base) (found : path ∈ (scanner.found tree root).files) :
    ∃ names, KeyedBelow root base name path names := by
  have nonempty := (locate_eq_ok (openRoot?_eq_some opened).1).1
  obtain ⟨names, deeper, valid, rfl⟩ := names_of_found opened found
  have stripped := componentsBelow?_pathBelow nonempty valid
  have key := keyOf_pathBelow nonempty valid
  rw [leadOf_of_name named, up, Option.getD_some] at stripped
  rw [leadOf_of_name named, keyOf, up, Option.getD_some] at key
  refine ⟨names, deeper, valid, rfl, components_pathBelow nonempty valid, stripped, ?_⟩
  rw [key, rootLabel_of_name named]
  rfl

theorem skipOf?_not_duplicate {base path : Path} {skip : Skipped}
    (skipped : skipOf? tree extractor base path = some skip) (key : String) :
    skip.cause ≠ .duplicatePath key := by
  unfold skipOf? recordOf at skipped
  cases reading : tree.readText path with
  | error fault =>
    rw [reading] at skipped
    cases skipped
    simp
  | ok content =>
    rw [reading] at skipped
    cases skipped

theorem no_duplicates_of_distinct {scanned : Scanned α}
    (opened : openRoot? tree root = some (location, entries))
    (distinct : ((scanner.found tree root).files.map (keyOf root)).Nodup)
    (done : (scanner.scan tree extractor root).result = .ok scanned) :
    ∀ skip ∈ scanned.skipped, ∀ key, skip.cause ≠ .duplicatePath key := by
  obtain ⟨other, again, _, _, skipped⟩ := scan_of_distinct scanner extractor opened distinct
  cases done.symm.trans again
  intro skip member key
  rw [skipped] at member
  rcases List.mem_append.1 member with member | member
  · obtain ⟨error, _, rfl⟩ := List.mem_map.1 member
    simp
  · obtain ⟨path, _, isSkip⟩ := List.mem_filterMap.1 member
    exact skipOf?_not_duplicate isSkip key

theorem files_of_respelled (scanner : Scanner) {visits others : List Visit}
    (nonempty : first.bytes ≠ []) (nonemptyOther : second.bytes ≠ [])
    (alike : List.Forall₂ (Visit.Respelled first second) visits others) :
    ∃ list : List Location,
      visits.filterMap scanner.keepSelected = list.map (pathBelow first) ∧
      others.filterMap scanner.keepSelected = list.map (pathBelow second) ∧
      ∀ names ∈ list, names ≠ [] ∧ ∀ part ∈ names, NameValid part := by
  induction alike with
  | nil => exact ⟨[], rfl, rfl, by simp⟩
  | @cons visit other visits others alike rest ih =>
    obtain ⟨list, files, filesOther, holds⟩ := ih
    cases alike with
    | failed error failure => exact ⟨list, files, filesOther, holds⟩
    | file names deeper valid =>
      have selected : scanner.selects (pathBelow first names) =
          scanner.selects (pathBelow second names) := by
        rw [selects_pathBelow nonempty valid deeper, selects_pathBelow nonemptyOther valid deeper]
      by_cases chosen : scanner.selects (pathBelow second names) = true
      · refine ⟨names :: list, ?_, ?_, ?_⟩
        · simp [keepSelected, selected, chosen, files]
        · simp [keepSelected, chosen, filesOther]
        · exact List.forall_mem_cons.2 ⟨⟨deeper, valid⟩, holds⟩
      · refine ⟨list, ?_, ?_, holds⟩
        · simp [keepSelected, selected, chosen, files]
        · simp [keepSelected, chosen, filesOther]

theorem recordOf_respelled {names other : Location} (same : first.components = second.components)
    (named : first.fileName? = some name) (reached : tree.locate first = .ok location)
    (reachedOther : tree.locate second = .ok other) (deeper : names ≠ [])
    (valid : ∀ part ∈ names, NameValid part)
    (short : (pathBelow first names).bytes.length ≤ pathLimit)
    (shortOther : (pathBelow second names).bytes.length ≤ pathLimit) :
    (recordOf tree extractor (first.parent?.getD first) (pathBelow first names)).toOption =
      (recordOf tree extractor (second.parent?.getD second) (pathBelow second names)).toOption := by
  have located := locate_respelled same reached reachedOther valid deeper short shortOther
  have texts : tree.readText (pathBelow first names) = tree.readText (pathBelow second names) := by
    rw [readText, readText, readBytes, readBytes, located]
  have keys : keyOf first (pathBelow first names) = keyOf second (pathBelow second names) := by
    rw [keyOf_pathBelow (locate_eq_ok reached).1 valid,
      keyOf_pathBelow (locate_eq_ok reachedOther).1 valid, leadOf_of_name named,
      leadOf_of_name ((fileName?_respelled same).symm.trans named)]
  unfold keyOf at keys
  rw [recordOf, recordOf, texts]
  cases tree.readText (pathBelow second names) with
  | error fault => rfl
  | ok content => simp only [keys]

/-- The scan comes upon no path that is too long: of no file that it looks for, and of nothing that
it cannot visit. -/
structure PathsFit (scanner : Scanner) (tree : FileTree) (root : Path) : Prop where
  files : ∀ path ∈ (scanner.found tree root).files, path.bytes.length ≤ pathLimit
  failures : ∀ error ∈ (scanner.found tree root).failures, error.path.bytes.length ≤ pathLimit

theorem PathsFit.short (fit : PathsFit scanner tree root) : Short (scanner.visits tree root) :=
  fun error failed => fit.failures error (mem_failures_iff.2 failed)

section Respelled

variable {tree : SoundTree} {other : Location} {more : Entries}
  (same : first.components = second.components)
  (opened : openRoot? tree first = some (location, entries))
  (openedOther : openRoot? tree second = some (other, more))
  (fit : PathsFit scanner tree first) (fitOther : PathsFit scanner tree second)

include same opened openedOther fit fitOther

theorem visits_respelled :
    List.Forall₂ (Visit.Respelled first second) (scanner.visits tree first)
      (scanner.visits tree second) := by
  obtain ⟨reached, directory⟩ := openRoot?_eq_some opened
  obtain ⟨reachedOther, directoryOther⟩ := openRoot?_eq_some openedOther
  obtain rfl := location_respelled same reached reachedOther directory directoryOther
  cases directory.symm.trans directoryOther
  have abreast : Abreast first second [] ⟨location, first⟩ ⟨location, second⟩ [] [] :=
    ⟨rfl, rfl, by simp, rfl⟩
  have short := fit.short
  have shortOther := fitOther.short
  rw [visits_eq_walk scanner opened] at short ⊢
  rw [visits_eq_walk scanner openedOther] at shortOther ⊢
  exact walk_respelled same reached reachedOther (remaining_of_opened opened) [] abreast
    short shortOther

theorem records_respelled (named : first.fileName? = some name) :
    ((scanner.found tree first).files.filterMap fun path =>
      (recordOf tree extractor (first.parent?.getD first) path).toOption) =
      (scanner.found tree second).files.filterMap fun path =>
        (recordOf tree extractor (second.parent?.getD second) path).toOption := by
  have reached := (openRoot?_eq_some opened).1
  have reachedOther := (openRoot?_eq_some openedOther).1
  have alike := visits_respelled same opened openedOther fit fitOther
  obtain ⟨list, files, filesOther, holds⟩ := files_of_respelled scanner (locate_eq_ok reached).1
    (locate_eq_ok reachedOther).1 alike
  rw [← found_files] at files filesOther
  rw [files, filesOther, List.filterMap_map, List.filterMap_map]
  apply List.filterMap_congr
  intro names member
  obtain ⟨deeper, valid⟩ := holds names member
  refine recordOf_respelled same named reached reachedOther deeper valid ?_ ?_
  · exact fit.files _ (files ▸ List.mem_map_of_mem member)
  · exact fitOther.files _ (filesOther ▸ List.mem_map_of_mem member)

theorem inventory_respelled {scanned again : Scanned α} (named : first.fileName? = some name)
    (done : (scanner.scan tree extractor first).result = .ok scanned)
    (doneOther : (scanner.scan tree extractor second).result = .ok again) :
    again.inventory = scanned.inventory := by
  have label : first.rootLabel = second.rootLabel := by
    rw [rootLabel_of_name named, rootLabel_of_name ((fileName?_respelled same).symm.trans named)]
  obtain ⟨inventory, aggregated, _, result⟩ := scan_of_opened scanner extractor opened
  obtain ⟨inventoryOther, aggregatedOther, _, resultOther⟩ :=
    scan_of_opened scanner extractor openedOther
  rw [recordsOf_examine, label,
    records_respelled same opened openedOther fit fitOther named] at aggregated
  rw [recordsOf_examine] at aggregatedOther
  rw [result] at done
  rw [resultOther] at doneOther
  cases done
  cases doneOther
  exact Except.ok.inj (aggregatedOther.symm.trans aggregated)

end Respelled

/-- The key of each file is the root's name and the names below the root. So names that are text
make different keys, and another spelling of the root gives the same inventory unless a path is too
long. -/
theorem keys_spell_names_below_root (scanner : Scanner) (tree : SoundTree)
    (extractor : Extractor α) (root : Path) (name : Name) (named : root.fileName? = some name)
    (directory : tree.isDirectory root = true) :
    ∃ base scanned,
      root.parent? = some base ∧ (scanner.scan tree extractor root).result = .ok scanned ∧
      (∀ path ∈ (scanner.found tree root).files, ∃ names, KeyedBelow root base name path names) ∧
      (∀ record ∈ scanned.inventory.records, ∃ path ∈ (scanner.found tree root).files,
        record.path = path.relativeKey base) ∧
      ((∀ path ∈ (scanner.found tree root).files, ∀ names,
          KeyedBelow root base name path names → ∀ part ∈ names, IsText part) →
        ((scanner.found tree root).files.map (·.relativeKey base)).Nodup ∧
        ∀ skip ∈ scanned.skipped, ∀ key, skip.cause ≠ .duplicatePath key) ∧
      ∀ other, other.components = root.components → tree.isDirectory other = true →
        PathsFit scanner tree root → PathsFit scanner tree other →
        ∃ again, (scanner.scan tree extractor other).result = .ok again ∧
          again.inventory = scanned.inventory := by
  obtain ⟨location, entries, opened⟩ := openRoot?_of_directory directory
  obtain ⟨base, up⟩ := exists_parent named
  obtain ⟨inventory, aggregated, holds, scanned⟩ := scan_of_opened scanner extractor opened
  have result := congrArg Traced.result scanned
  have keyed := fun path => @keyedBelow_of_found scanner root name location entries tree base path
    opened named up
  refine ⟨base, _, up, result, keyed, ?_, ?_, ?_⟩
  · intro record member
    rw [holds, List.mem_reverse] at member
    obtain ⟨path, found, isRecord⟩ := record_of_examined member
    refine ⟨path, found, ?_⟩
    rw [path_of_recordOf isRecord, up, Option.getD_some]
  · intro isText
    have distinct : ((scanner.found tree root).files.map (keyOf root)).Nodup := by
      refine keys_nodup opened scanner fun names found valid => ?_
      obtain ⟨others, below⟩ := keyed _ found
      have same := pathBelow_inj (locate_eq_ok (openRoot?_eq_some opened).1).1 valid below.valid
        below.below
      exact isText _ found names (same ▸ below)
    have keys : keyOf root = (·.relativeKey base) := by
      funext path
      rw [keyOf, up, Option.getD_some]
    exact ⟨keys ▸ distinct, no_duplicates_of_distinct opened distinct result⟩
  · intro other same directoryOther fit fitOther
    obtain ⟨_, _, openedOther⟩ := openRoot?_of_directory directoryOther
    obtain ⟨_, _, _, again⟩ := scan_of_opened scanner extractor openedOther
    have resultOther := congrArg Traced.result again
    exact ⟨_, resultOther, inventory_respelled same.symm opened openedOther fit fitOther
      named result resultOther⟩

/-- A file, and a link that leads to a directory outside the root. -/
def linkedProject : SoundTree := .ofEdits
  [.makeDirectories (.ofString "lib"),
    .writeFile (.ofString "lib/b.ts") (encode "export const y = 2"),
    .makeDirectories (.ofString "src"),
    .writeFile (.ofString "src/a.ts") (encode "export const x = 1"),
    .makeLink (.ofString "src/lib") (.ofString "../lib")]

def typescriptScanner : Scanner where
  patterns := [Glob.ending ".ts"]
  followLinks := true

theorem linkedProject_found :
    typescriptScanner.found linkedProject (.ofString "lib/..//./src/.") =
        ⟨[.ofString "lib/..//./src/./a.ts", .ofString "lib/..//./src/./lib/b.ts"], []⟩ ∧
      typescriptScanner.found linkedProject (.ofString "lib/../src") =
        ⟨[.ofString "lib/../src/a.ts", .ofString "lib/../src/lib/b.ts"], []⟩ := by
  constructor <;> cbv

theorem linkedProject_keys :
    ∃ base scanned again,
      (typescriptScanner.scan linkedProject .symbols (.ofString "lib/..//./src/.")).result =
        .ok scanned ∧
      (typescriptScanner.scan linkedProject .symbols (.ofString "lib/../src")).result = .ok again ∧
      again.inventory = scanned.inventory ∧
      ((typescriptScanner.found linkedProject (.ofString "lib/..//./src/.")).files.map
        (·.relativeKey base)).Nodup ∧
      ∀ skip ∈ scanned.skipped, ∀ key, skip.cause ≠ .duplicatePath key := by
  obtain ⟨found, foundOther⟩ := linkedProject_found
  obtain ⟨base, scanned, _, result, _, _, textual, respelled⟩ :=
    keys_spell_names_below_root typescriptScanner linkedProject .symbols
      (.ofString "lib/..//./src/.") (encode "src") (by cbv) (by cbv)
  have fit : PathsFit typescriptScanner linkedProject (.ofString "lib/..//./src/.") := by
    refine ⟨?_, ?_⟩ <;> rw [found] <;> decide +kernel
  have fitOther : PathsFit typescriptScanner linkedProject (.ofString "lib/../src") := by
    refine ⟨?_, ?_⟩ <;> rw [foundOther] <;> decide +kernel
  obtain ⟨again, resultOther, same⟩ := respelled (.ofString "lib/../src") (by decide +kernel)
    (by cbv) fit fitOther
  have isText : ∀ path ∈ (typescriptScanner.found linkedProject
      (.ofString "lib/..//./src/.")).files, ∀ names,
      KeyedBelow (.ofString "lib/..//./src/.") base (encode "src") path names →
        ∀ part ∈ names, IsText part := by
    rw [found]
    refine List.forall_mem_cons.2 ⟨?_, List.forall_mem_singleton.2 ?_⟩
    · intro names keyed
      obtain rfl : names = [encode "a.ts"] := pathBelow_inj (by decide +kernel) keyed.valid
        (by decide +kernel) (keyed.below.symm.trans (by decide +kernel))
      exact List.forall_mem_singleton.2 ⟨_, rfl⟩
    · intro names keyed
      obtain rfl : names = [encode "lib", encode "b.ts"] := pathBelow_inj (by decide +kernel)
        keyed.valid (by decide +kernel) (keyed.below.symm.trans (by decide +kernel))
      exact List.forall_mem_cons.2 ⟨⟨_, rfl⟩, List.forall_mem_singleton.2 ⟨_, rfl⟩⟩
  obtain ⟨distinct, noDuplicates⟩ := textual isText
  exact ⟨base, scanned, again, result, resultOther, same, distinct, noDuplicates⟩

theorem no_records_of_long {scanned : Scanned α}
    (opened : openRoot? tree root = some (location, entries))
    (long : ∀ path ∈ (scanner.found tree root).files, ¬ path.bytes.length ≤ pathLimit)
    (done : (scanner.scan tree extractor root).result = .ok scanned) :
    scanned.inventory.records = [] := by
  obtain ⟨inventory, _, holds, result⟩ := scan_of_opened scanner extractor opened
  rw [result] at done
  cases done
  rw [holds, List.reverse_eq_nil_iff, List.eq_nil_iff_forall_not_mem]
  intro record member
  obtain ⟨path, found, isRecord⟩ := record_of_examined member
  obtain ⟨fault, failed⟩ := long_of_locate tree (long path found)
  simp [recordOf, readText, readBytes, failed] at isRecord

def oneSourceEntries : Entries := [(encode "a.ts", .file (encode "export const x = 1"))]

theorem oneSourceProject_directory :
    oneSourceProject.root.at? [encode "src"] = some (.directory oneSourceEntries) := by
  cbv

/-- With enough slashes after it the root can still be opened, but not the file in it. -/
theorem oneSourceProject_slashed :
    openRoot? oneSourceProject (slashed (.ofString "src") 4090) =
        some ([encode "src"], oneSourceEntries) ∧
      ∀ path ∈ (typescriptScanner.found oneSourceProject (slashed (.ofString "src") 4090)).files,
        ¬ path.bytes.length ≤ pathLimit := by
  have reached : oneSourceProject.locate (.ofString "src") = .ok [encode "src"] := by cbv
  have opened : openRoot? oneSourceProject (slashed (.ofString "src") 4090) =
      some ([encode "src"], oneSourceEntries) :=
    openRoot?_of_locate (locate_slashed reached oneSourceProject_directory (by decide +kernel))
      oneSourceProject_directory
  refine ⟨opened, fun path found => ?_⟩
  have valid : NameValid (encode "a.ts") := by decide +kernel
  obtain ⟨visited, _⟩ := mem_found_iff.1 found
  rw [visits_eq_walk _ opened, oneSourceEntries, walkEntries, walkEntries,
    List.mem_singleton] at visited
  obtain rfl := Visit.file.inj visited
  exact Nat.not_le.2 (long_join_slashed valid (by decide +kernel))

theorem slashes_change_the_inventory :
    (Path.ofString "src").fileName? = some (encode "src") ∧
      oneSourceProject.isDirectory (.ofString "src") = true ∧
      oneSourceProject.locate (slashed (.ofString "src") 4090) =
        oneSourceProject.locate (.ofString "src") ∧
      (slashed (.ofString "src") 4090).components = (Path.ofString "src").components ∧
      ∃ scanned again,
        (typescriptScanner.scan oneSourceProject .symbols (.ofString "src")).result = .ok scanned ∧
        (typescriptScanner.scan oneSourceProject .symbols (slashed (.ofString "src") 4090)).result =
          .ok again ∧
        scanned.inventory.size = 1 ∧ again.inventory.size = 0 := by
  have reached : oneSourceProject.locate (.ofString "src") = .ok [encode "src"] := by cbv
  have found : (typescriptScanner.found oneSourceProject (.ofString "src")).files =
      [.ofString "src/a.ts"] := by cbv
  have readable : (recordOf oneSourceProject .symbols ((Path.ofString "src").parent?.getD
      (.ofString "src")) (.ofString "src/a.ts")).isOk = true := by cbv
  obtain ⟨opened, long⟩ := oneSourceProject_slashed
  obtain ⟨reachedOther, directory⟩ := openRoot?_eq_some opened
  obtain ⟨scanned, once, _, records, _⟩ := scan_of_distinct typescriptScanner .symbols
    (openRoot?_of_locate reached oneSourceProject_directory) (by simp [found])
  obtain ⟨_, _, _, scan⟩ := scan_of_opened typescriptScanner .symbols opened
  have twice := congrArg Traced.result scan
  have isDirectory : oneSourceProject.isDirectory (.ofString "src") = true :=
    isDirectory_iff.2 ⟨_, reached, kindAt?_of_at? oneSourceProject_directory⟩
  refine ⟨by decide +kernel, isDirectory, reachedOther.trans reached.symm,
    components_slashed (by decide +kernel) _, scanned, _, once, twice, ?_, ?_⟩
  · rw [Inventory.size, records, found]
    cases record : recordOf oneSourceProject .symbols ((Path.ofString "src").parent?.getD
      (.ofString "src")) (.ofString "src/a.ts") with
    | error cause => simp [record, Except.isOk, Except.toBool] at readable
    | ok record => simp [record, Except.toOption]
  · rw [Inventory.size, no_records_of_long opened long twice, List.length_nil]

end CodeInventory.Scanner
