import CodeInventory.Proofs.FileTree.Coverage
import CodeInventory.Proofs.FileTree.Spelling
import CodeInventory.Proofs.Glob.Notation
import CodeInventory.Proofs.Inventory.Findings

namespace CodeInventory.Scanner

open CodeInventory.FileTree CodeInventory.Path CodeInventory.Source CodeInventory.Text

variable {α : Type} {scanner : Scanner} {tree : FileTree} {extractor : Extractor α}
  {base root : Path} {location : Location} {entries : Entries}

/-- The files found, as the names that lead to them. -/
structure Discovered (scanner : Scanner) (tree : FileTree) (root : Path) (location : Location)
    (found : List Location) : Prop where
  files : (scanner.found tree root).files = found.map (pathBelow root)
  increasing : found.Pairwise (· < ·)
  complete : ∀ names, names ∈ found ↔
    (∃ bytes, tree.root.at? (location ++ names) = some (.file bytes)) ∧
    (∃ name, names.getLast? = some name ∧
      scanner.patterns.any (·.accepts (decodeLossy name)) = true) ∧
    (pathBelow root names.dropLast).bytes.length ≤ pathLimit

section Opened

variable {tree : SoundTree} (unlinked : tree.Unlinked)
  (opened : openRoot? tree root = some (location, entries))

include unlinked opened

theorem mem_visits_below_iff {visit : Visit} :
    visit ∈ scanner.visits tree root ↔
      ∃ names node, tree.root.at? (location ++ names) = some node ∧ names ≠ [] ∧
        (∀ name ∈ names, NameValid name) ∧
        (pathBelow root names.dropLast).bytes.length ≤ pathLimit ∧
        node.sight (pathBelow root names) = some visit := by
  obtain ⟨reached, directory⟩ := openRoot?_eq_some opened
  have fits := (locate_eq_ok reached).2.2.1
  have inner : (Node.directory entries).WellFormed := Node.WellFormed.at? tree.wellFormed directory
  have below : ∀ names, tree.root.at? (location ++ names) = (Node.directory entries).at? names := by
    intro names
    rw [at?_append, directory]
    rfl
  rw [visits_of_opened tree unlinked opened, mem_visits_iff inner]
  simp only [below]
  constructor
  · rintro ⟨names, node, there, opens, sight⟩
    have valid := valid_of_at? inner there
    have deeper : names ≠ [] := by
      rintro rfl
      cases there
      rw [Node.sight, pathBelow, if_neg (Nat.not_lt.2 fits)] at sight
      cases sight
    exact ⟨names, node, there, deeper, valid, (opens_iff valid deeper).1 opens, sight⟩
  · rintro ⟨names, node, there, deeper, valid, short, sight⟩
    exact ⟨names, node, there, (opens_iff valid deeper).2 short, sight⟩

theorem file_mem_visits_iff {names : Location} (valid : ∀ name ∈ names, NameValid name) :
    .file (pathBelow root names) ∈ scanner.visits tree root ↔
      (∃ bytes, tree.root.at? (location ++ names) = some (.file bytes)) ∧
        (pathBelow root names.dropLast).bytes.length ≤ pathLimit := by
  obtain ⟨reached, directory⟩ := openRoot?_eq_some opened
  have nonempty := (locate_eq_ok reached).1
  rw [mem_visits_below_iff unlinked opened]
  constructor
  · rintro ⟨others, node, there, _, validOthers, short, sight⟩
    cases node with
    | file bytes =>
      have same := Visit.file.inj (Option.some.inj sight)
      obtain rfl := pathBelow_inj nonempty validOthers valid same
      exact ⟨⟨bytes, there⟩, short⟩
    | link target => cases sight
    | directory inside =>
      rw [Node.sight] at sight
      split at sight <;> cases sight
  · rintro ⟨⟨bytes, there⟩, short⟩
    refine ⟨names, _, there, ?_, valid, short, rfl⟩
    rintro rfl
    rw [List.append_nil, directory] at there
    cases there

theorem exists_discovered (scanner : Scanner) :
    ∃ found, Discovered scanner tree root location found := by
  have nonempty := (locate_eq_ok (openRoot?_eq_some opened).1).1
  have agree : ∀ visit kept, scanner.keepSelected visit = some kept → id kept = visit.path := by
    intro visit kept selected
    rw [(keepSelected_eq_some.1 selected).1]
    rfl
  obtain ⟨found, files, increasing, holds⟩ := exists_increasing agree
    (remaining_of_opened opened) scanner.followLinks []
  rw [← visits_eq_walk scanner opened, ← found_files, List.map_id] at files
  refine ⟨found, files, increasing, fun names => ?_⟩
  constructor
  · intro member
    obtain ⟨deeper, valid⟩ := holds names member
    obtain ⟨visited, selected⟩ := mem_found_iff.1 (files ▸ List.mem_map_of_mem member)
    obtain ⟨there, short⟩ := (file_mem_visits_iff unlinked opened valid).1 visited
    rw [selects_pathBelow nonempty valid deeper, Option.any_eq_true] at selected
    exact ⟨there, selected, short⟩
  · rintro ⟨⟨bytes, there⟩, ⟨name, last, selected⟩, short⟩
    have valid : ∀ part ∈ names, NameValid part := fun part member =>
      valid_of_at? tree.wellFormed there part (List.mem_append_right _ member)
    have deeper : names ≠ [] := by
      rintro rfl
      cases last
    have chosen : pathBelow root names ∈ (scanner.found tree root).files := by
      refine mem_found_iff.2 ⟨?_, ?_⟩
      · exact (file_mem_visits_iff unlinked opened valid).2 ⟨⟨bytes, there⟩, short⟩
      · rw [selects_pathBelow nonempty valid deeper, Option.any_eq_true]
        exact ⟨name, last, selected⟩
    rw [files] at chosen
    obtain ⟨others, member, same⟩ := List.mem_map.1 chosen
    rwa [← pathBelow_inj nonempty (holds others member).2 valid same]

/-- The entries that cannot be visited are the first directories on their way whose paths are too
long. -/
theorem mem_failures_below_iff {error : WalkError} :
    error ∈ (scanner.found tree root).failures ↔
      ∃ names, error = ⟨pathBelow root names, .unreachable .nameTooLong⟩ ∧
        tree.kindAt? (location ++ names) = some .directory ∧
        pathLimit < (pathBelow root names).bytes.length ∧
        (pathBelow root names.dropLast).bytes.length ≤ pathLimit := by
  have fits := (locate_eq_ok (openRoot?_eq_some opened).1).2.2.1
  rw [mem_failures_iff, mem_visits_below_iff unlinked opened]
  constructor
  · rintro ⟨names, node, there, _, _, short, sight⟩
    cases node with
    | file bytes => cases sight
    | link target => cases sight
    | directory inside =>
      rw [Node.sight] at sight
      split at sight
      · rename_i long
        cases sight
        exact ⟨names, rfl, kindAt?_of_at? there, long, short⟩
      · cases sight
  · rintro ⟨names, rfl, isDirectory, long, short⟩
    obtain ⟨inside, there⟩ := kindAt?_directory.1 isDirectory
    have deeper : names ≠ [] := by
      rintro rfl
      exact Nat.not_le.2 long fits
    refine ⟨names, _, there, deeper, fun name member => ?_, short, if_pos long⟩
    exact valid_of_at? tree.wellFormed there name (List.mem_append_right _ member)

theorem no_failures_of_short
    (short : ∀ names, tree.kindAt? (location ++ names) = some .directory →
      (pathBelow root names).bytes.length ≤ pathLimit) :
    (scanner.found tree root).failures = [] := by
  refine List.eq_nil_iff_forall_not_mem.2 fun error member => ?_
  obtain ⟨names, _, isDirectory, long, _⟩ :=
    (mem_failures_below_iff unlinked opened).1 member
  exact Nat.not_le.2 long (short names isDirectory)

end Opened

theorem mem_withFreeKeys {record : FileRecord α} {before after : List (FileRecord α)}
    {taken : List String} (fresh : record.path ∉ taken)
    (first : ∀ earlier ∈ before, earlier.path ≠ record.path) :
    record ∈ withFreeKeys taken (before ++ record :: after) := by
  induction before generalizing taken with
  | nil =>
    rw [List.nil_append, withFreeKeys, if_neg fresh]
    exact List.mem_cons_self ..
  | cons earlier rest ih =>
    obtain ⟨different, others⟩ := List.forall_mem_cons.1 first
    rw [List.cons_append, withFreeKeys]
    split
    · exact ih fresh others
    · refine List.mem_cons_of_mem _ (ih ?_ others)
      exact List.not_mem_cons_of_ne_of_not_mem (Ne.symm different) fresh

structure Recorded (extractor : Extractor α) (root : Path) (names : Location) (content : String)
    (record : FileRecord α) : Prop where
  path : record.path = keyOf root (pathBelow root names)
  extraction : record.extraction = extractor.extract content
  byteSize : record.byteSize = (encode content).length
  lineCount : record.lineCount = (encode content).count 0x0a +
    if encode content = [] ∨ (encode content).getLast? = some 0x0a then 0 else 1

theorem recordOf_pathBelow {tree : SoundTree} {names : Location} {content : String}
    (extractor : Extractor α) (opened : openRoot? tree root = some (location, entries))
    (there : tree.root.at? (location ++ names) = some (.file (encode content)))
    (fits : Fits root names) :
    ∃ record, recordOf tree extractor (root.parent?.getD root) (pathBelow root names) = .ok record ∧
      Recorded extractor root names content record := by
  obtain ⟨reached, directory⟩ := openRoot?_eq_some opened
  have reading := readBytes_pathBelow tree reached directory there
  rw [if_pos fits] at reading
  refine ⟨.ofText (keyOf root (pathBelow root names)) content (extractor.extract content), ?_,
    rfl, rfl, (length_encode content).symm, lineCount_eq_count content⟩
  rw [recordOf, readText_eq_ok_iff.2 reading]
  rfl

theorem record_mem_of_first {found : List Location} {names : Location} {record : FileRecord α}
    {scanned : Scanned α} (opened : openRoot? tree root = some (location, entries))
    (discovered : Discovered scanner tree root location found) (member : names ∈ found)
    (isRecord : recordOf tree extractor (root.parent?.getD root) (pathBelow root names) =
      .ok record)
    (first : ∀ earlier ∈ found, earlier < names →
      keyOf root (pathBelow root earlier) ≠ keyOf root (pathBelow root names))
    (done : (scanner.scan tree extractor root).result = .ok scanned) :
    record ∈ scanned.inventory.records := by
  obtain ⟨inventory, _, holds, result⟩ := scan_of_opened scanner extractor opened
  rw [result] at done
  cases done
  obtain ⟨front, back, rfl⟩ := List.append_of_mem member
  have before := (List.pairwise_append.1 discovered.increasing).2.2
  rw [holds, List.mem_reverse, recordsOf_examine, discovered.files, List.map_append, List.map_cons,
    List.filterMap_append, List.filterMap_cons_some (by rw [isRecord]; rfl)]
  refine mem_withFreeKeys (List.not_mem_nil) fun earlier isEarlier => ?_
  obtain ⟨path, inside, isOk⟩ := List.mem_filterMap.1 isEarlier
  obtain ⟨others, among, rfl⟩ := List.mem_map.1 inside
  rw [path_of_recordOf (ok_of_toOption isOk), path_of_recordOf isRecord]
  exact first others (List.mem_append_left _ among) (before others among names (.head _))

/-- Matching files are found in order, all of them where no directory's path is too long, and their
records say what is in them. -/
theorem discovery_is_complete_and_ordered (scanner : Scanner) (tree : SoundTree)
    (extractor : Extractor α) (root : Path) (unlinked : tree.Unlinked)
    (directory : tree.isDirectory root = true) :
    ∃ location found scanned,
      tree.locate root = .ok location ∧ (scanner.scan tree extractor root).result = .ok scanned ∧
      Discovered scanner tree root location found ∧
      (∀ error, error ∈ (scanner.found tree root).failures ↔
        ∃ names, error = ⟨pathBelow root names, .unreachable .nameTooLong⟩ ∧
          tree.kindAt? (location ++ names) = some .directory ∧
          pathLimit < (pathBelow root names).bytes.length ∧
          (pathBelow root names.dropLast).bytes.length ≤ pathLimit) ∧
      ((scanner.found tree root).failures.map (·.path)).Nodup ∧
      ((∀ names, tree.kindAt? (location ++ names) = some .directory →
        (pathBelow root names).bytes.length ≤ pathLimit) →
        (scanner.found tree root).failures = []) ∧
      ∀ names ∈ found, ∀ content,
        tree.root.at? (location ++ names) = some (.file (encode content)) → Fits root names →
        ∃ record,
          recordOf tree extractor (root.parent?.getD root) (pathBelow root names) = .ok record ∧
          Recorded extractor root names content record ∧
          ((∀ earlier ∈ found, earlier < names →
            keyOf root (pathBelow root earlier) ≠ keyOf root (pathBelow root names)) →
            record ∈ scanned.inventory.records) := by
  obtain ⟨location, entries, opened⟩ := openRoot?_of_directory directory
  obtain ⟨found, discovered⟩ := exists_discovered unlinked opened scanner
  obtain ⟨_, _, _, scan⟩ := scan_of_opened scanner extractor opened
  have done := congrArg Traced.result scan
  refine ⟨location, found, _, (openRoot?_eq_some opened).1, done, discovered,
    fun error => mem_failures_below_iff unlinked opened, failures_nodup opened scanner,
    no_failures_of_short unlinked opened, ?_⟩
  intro names member content there fits
  obtain ⟨record, isRecord, recorded⟩ := recordOf_pathBelow extractor opened there fits
  refine ⟨record, isRecord, recorded, fun first => ?_⟩
  exact record_mem_of_first opened discovered member isRecord first done

/-- A directory, a file whose name goes on where the directory's ends, and a hidden file. -/
def siblingProject : SoundTree := .ofEdits
  [.makeDirectories (.ofString "src/a"), .writeFile (.ofString "src/a/b.ts") [],
    .writeFile (.ofString "src/a.ts") (encode "x\ny"), .writeFile (.ofString "src/.c.ts") [0xff]]

def siblingScanner : Scanner where
  patterns := [Glob.ending ".ts"]

theorem siblingProject_short (names : Location)
    (found : siblingProject.kindAt? ([encode "src"] ++ names) = some .directory) :
    (pathBelow (.ofString "src") names).bytes.length ≤ pathLimit := by
  have listed : siblingProject.root.directories =
      [[], [encode "src"], [encode "src", encode "a"]] := by cbv
  obtain ⟨entries, there⟩ := kindAt?_directory.1 found
  obtain rfl | rfl : names = [] ∨ names = [encode "a"] := by
    simpa [listed] using mem_directories there
  · decide +kernel
  · decide +kernel

/-- The directory's file comes first, though its key is the greater one. -/
theorem siblingProject_discovered :
    ∃ found scanned,
      (siblingScanner.scan siblingProject .behaviors (.ofString "src")).result = .ok scanned ∧
      Discovered siblingScanner siblingProject (.ofString "src") [encode "src"] found ∧
      found.map (pathBelow (.ofString "src")) =
        [.ofString "src/.c.ts", .ofString "src/a/b.ts", .ofString "src/a.ts"] ∧
      (siblingScanner.found siblingProject (.ofString "src")).failures = [] ∧
      ∃ record ∈ scanned.inventory.records,
        Recorded .behaviors (.ofString "src") [encode "a.ts"] "x\ny" record := by
  have files : (siblingScanner.found siblingProject (.ofString "src")).files =
      [.ofString "src/.c.ts", .ofString "src/a/b.ts", .ofString "src/a.ts"] := by cbv
  have located : siblingProject.locate (.ofString "src") = .ok [encode "src"] := by cbv
  obtain ⟨location, found, scanned, reached, done, discovered, _, _, fewer, recorded⟩ :=
    discovery_is_complete_and_ordered siblingScanner siblingProject .behaviors (.ofString "src")
      (unlinked_of_all (by cbv)) (by cbv)
  cases located.symm.trans reached
  have there : siblingProject.root.at? ([encode "src"] ++ [encode "a.ts"]) =
      some (.file (encode "x\ny")) := by cbv
  have member : [encode "a.ts"] ∈ found :=
    (discovered.complete _).2 ⟨⟨_, there⟩, ⟨encode "a.ts", rfl, by cbv⟩, by decide +kernel⟩
  obtain ⟨record, _, holds, isThere⟩ := recorded _ member _ there (by decide +kernel)
  refine ⟨found, scanned, done, discovered, discovered.files.symm.trans files,
    fewer siblingProject_short, record, isThere ?_, holds⟩
  intro earlier among less same
  -- the keys of the three files differ
  have distinct : ((siblingScanner.found siblingProject (.ofString "src")).files.map
      (keyOf (.ofString "src"))).Nodup := by
    rw [files]
    decide +kernel
  rw [discovered.files] at distinct
  obtain ⟨⟨_, isFile⟩, _⟩ := (discovered.complete earlier).1 among
  have valid : ∀ part ∈ earlier, NameValid part := fun part inside =>
    valid_of_at? siblingProject.wellFormed isFile part (List.mem_append_right _ inside)
  have paths := List.inj_on_of_nodup_map distinct (List.mem_map_of_mem among)
    (List.mem_map_of_mem member) same
  obtain rfl := pathBelow_inj (by decide +kernel) valid (by decide +kernel) paths
  exact List.lt_irrefl _ less

def deepEntries : Entries := [(encode "deep", .directory [(encode "a.ts", .file [])])]

def deepProject : SoundTree := .ofEdits
  [.makeDirectories (.ofString "src/deep"), .writeFile (.ofString "src/deep/a.ts") []]

/-- With enough slashes after it the root can still be opened, but not the directory in it. -/
theorem deep_directory_is_skipped :
    deepProject.Unlinked ∧
      deepProject.isDirectory (slashed (.ofString "src") 4090) = true ∧
      deepProject.locate (slashed (.ofString "src") 4090) = .ok [encode "src"] ∧
      deepProject.root.at? ([encode "src"] ++ [encode "deep", encode "a.ts"]) = some (.file []) ∧
      siblingScanner.patterns.any (·.accepts (decodeLossy (encode "a.ts"))) = true ∧
      siblingScanner.found deepProject (slashed (.ofString "src") 4090) =
        ⟨[], [⟨pathBelow (slashed (.ofString "src") 4090) [encode "deep"],
          .unreachable .nameTooLong⟩]⟩ := by
  have directory : deepProject.root.at? [encode "src"] = some (.directory deepEntries) := by cbv
  have plain : deepProject.locate (.ofString "src") = .ok [encode "src"] := by cbv
  have reached := @locate_slashed deepProject (.ofString "src") [encode "src"] deepEntries 4090
    plain directory (by decide +kernel)
  have opened := openRoot?_of_locate reached directory
  have valid : NameValid (encode "deep") := by decide +kernel
  have long : pathLimit < (OpenDirectory.inner ⟨[encode "src"], slashed (.ofString "src") 4090⟩
      (encode "deep")).path.bytes.length := long_join_slashed valid (by decide +kernel)
  refine ⟨unlinked_of_all (by cbv), isDirectory_iff.2 ⟨_, reached, kindAt?_of_at? directory⟩,
    reached, by cbv, by cbv, ?_⟩
  rw [found, visits_eq_walk _ opened, deepEntries, walkEntries, if_pos long, walkEntries]
  rfl

end CodeInventory.Scanner
