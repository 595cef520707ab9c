import CodeInventory.Inventory.Scan
import CodeInventory.Proofs.FileTree.Reading
import CodeInventory.Proofs.Inventory.Aggregate
import Mathlib

namespace CodeInventory.Scanner

open CodeInventory.FileTree CodeInventory.Source

variable {α : Type} {tree : FileTree} {extractor : Extractor α} {base root : Path}

abbrev Examined (α : Type) := List (Path × Except Error (FileRecord α))

def keysBefore (examined : Examined α) (count : Nat) : List String :=
  (recordsOf (examined.take count)).map (·.path)

theorem recordsOf_record {path : Path} {record : FileRecord α} (examined : Examined α) :
    recordsOf ((path, .ok record) :: examined) = record :: recordsOf examined := rfl

theorem recordsOf_failure {path : Path} {cause : Error} (examined : Examined α) :
    recordsOf ((path, .error cause) :: examined) = recordsOf examined := rfl

theorem skippedOf_record {path : Path} {record : FileRecord α} (examined : Examined α) :
    skippedOf ((path, .ok record) :: examined) = skippedOf examined := rfl

theorem skippedOf_failure {path : Path} {cause : Error} (examined : Examined α) :
    skippedOf ((path, .error cause) :: examined) = ⟨path, cause⟩ :: skippedOf examined := rfl

theorem records_and_skips (examined : Examined α) :
    (recordsOf examined).length + (skippedOf examined).length = examined.length := by
  induction examined with
  | nil => rfl
  | cons file rest ih =>
    obtain ⟨path, result⟩ := file
    cases result with
    | error cause =>
      rw [recordsOf_failure, skippedOf_failure, List.length_cons, List.length_cons]
      omega
    | ok record =>
      rw [recordsOf_record, skippedOf_record, List.length_cons, List.length_cons]
      omega

theorem keysBefore_succ (file : Path × Except Error (FileRecord α)) (examined : Examined α)
    (count : Nat) :
    keysBefore (file :: examined) (count + 1) = keysBefore [file] 1 ++ keysBefore examined count := by
  simp only [keysBefore, List.take_succ_cons, List.take_zero]
  rw [← List.map_append, recordsOf, recordsOf, recordsOf, ← List.filterMap_append]
  rfl

theorem keysBefore_mono (examined : Examined α) {few many : Nat} (less : few ≤ many) :
    keysBefore examined few ⊆ keysBefore examined many := by
  have shorter : (examined.take few).Sublist (examined.take many) :=
    (List.take_prefix_take_left less).sublist
  exact ((shorter.filterMap _).map _).subset

theorem mem_keysBefore {examined : Examined α} {count position : Nat} {path : Path}
    {record : FileRecord α} (earlier : position < count)
    (entry : examined[position]? = some (path, .ok record)) :
    record.path ∈ keysBefore examined count := by
  have inside : (path, .ok record) ∈ examined.take count := by
    refine List.mem_of_getElem? (i := position) ?_
    rw [List.getElem?_take_of_lt earlier, entry]
  exact List.mem_map_of_mem (List.mem_filterMap.2 ⟨_, inside, rfl⟩)

theorem index_of_earlier {examined : Examined α} {count : Nat}
    {file : Path × Except Error (FileRecord α)} (member : file ∈ examined.take count) :
    ∃ index < count, examined[index]? = some file := by
  obtain ⟨index, inside⟩ := List.mem_iff_getElem?.1 member
  rw [List.getElem?_take] at inside
  split at inside
  · rename_i before
    exact ⟨index, before, inside⟩
  · cases inside

/-- What can become of a file, when the keys in `held` are taken. -/
inductive Fate (tree : FileTree) (extractor : Extractor α) (base : Path) (held : List String)
    (path : Path) : Except Error (FileRecord α) → Prop where
  | unreadable (fault : Fault) (failed : tree.readText path = .error fault) :
      Fate tree extractor base held path (.error (.unreadable path fault))
  | duplicate (content : String) (text : tree.readText path = .ok content)
      (taken : path.relativeKey base ∈ held) :
      Fate tree extractor base held path (.error (.duplicatePath (path.relativeKey base)))
  | record (content : String) (text : tree.readText path = .ok content)
      (free : path.relativeKey base ∉ held) :
      Fate tree extractor base held path
        (.ok (.ofText (path.relativeKey base) content (extractor.extract content)))

theorem Fate.congr {held other : List String} {path : Path}
    {result : Except Error (FileRecord α)} (same : ∀ key, key ∈ held ↔ key ∈ other)
    (fate : Fate tree extractor base held path result) :
    Fate tree extractor base other path result := by
  cases fate with
  | unreadable fault failed => exact .unreadable fault failed
  | duplicate content text taken => exact .duplicate content text ((same _).1 taken)
  | record content text free => exact .record content text fun taken => free ((same _).2 taken)

theorem examine_cons (tree : FileTree) (extractor : Extractor α) (base : Path)
    (taken : List String) (path : Path) (rest : List Path) :
    ∃ result, Fate tree extractor base taken path result ∧
      examine tree extractor base taken (path :: rest) =
        (path, result) :: examine tree extractor base
          (keysBefore [(path, result)] 1 ++ taken) rest := by
  rw [examine, recordOf]
  cases reading : tree.readText path with
  | error fault => exact ⟨_, .unreadable fault reading, rfl⟩
  | ok content =>
    by_cases member : path.relativeKey base ∈ taken
    · exact ⟨_, .duplicate content reading member, if_pos member⟩
    · exact ⟨_, .record content reading member, if_neg member⟩

theorem examine_fate {taken : List String} {files : List Path} {position : Nat} {path : Path}
    {result : Except Error (FileRecord α)}
    (entry : (examine tree extractor base taken files)[position]? = some (path, result)) :
    Fate tree extractor base
      (keysBefore (examine tree extractor base taken files) position ++ taken) path result := by
  induction files generalizing taken position with
  | nil => simp [examine] at entry
  | cons first rest ih =>
    obtain ⟨head, fate, split⟩ := examine_cons tree extractor base taken first rest
    rw [split] at entry ⊢
    cases position with
    | zero =>
      simp only [List.getElem?_cons_zero, Option.some.injEq, Prod.mk.injEq] at entry
      obtain ⟨rfl, rfl⟩ := entry
      exact fate
    | succ position =>
      rw [keysBefore_succ]
      refine (ih entry).congr fun key => ?_
      simp only [List.mem_append]
      exact or_left_comm.trans or_assoc.symm

theorem examine_paths (taken : List String) (files : List Path) :
    (examine tree extractor base taken files).map (·.1) = files := by
  induction files generalizing taken with
  | nil => rfl
  | cons first rest ih =>
    obtain ⟨head, fate, split⟩ := examine_cons tree extractor base taken first rest
    rw [split, List.map_cons, ih]

theorem examine_keys_distinct (taken : List String) (files : List Path) :
    ((recordsOf (examine tree extractor base taken files)).map (·.path)).Nodup ∧
      ∀ record ∈ recordsOf (examine tree extractor base taken files), record.path ∉ taken := by
  induction files generalizing taken with
  | nil => simp [examine, recordsOf]
  | cons first rest ih =>
    obtain ⟨head, fate, split⟩ := examine_cons tree extractor base taken first rest
    rw [split]
    cases fate with
    | unreadable fault failed => exact ih taken
    | duplicate content text held => exact ih taken
    | record content text free =>
      obtain ⟨distinct, fresh⟩ := ih (first.relativeKey base :: taken)
      rw [recordsOf_record, List.map_cons, List.nodup_cons, List.forall_mem_cons]
      refine ⟨⟨?_, distinct⟩, free, ?_⟩
      · intro member
        obtain ⟨record, inside, same⟩ := List.mem_map.1 member
        exact fresh record inside (List.mem_cons.2 (.inl same))
      · intro record inside held
        exact fresh record inside (List.mem_cons_of_mem _ held)

def keyOf (root path : Path) : String := path.relativeKey (root.parent?.getD root)

/-- Each result follows from the file and from the results before it. -/
structure Settled (tree : FileTree) (extractor : Extractor α) (root : Path)
    (examined : Examined α) : Prop where
  record_iff : ∀ (position : Nat) (path : Path) (result : Except Error (FileRecord α))
    (record : FileRecord α), examined[position]? = some (path, result) →
    (result = .ok record ↔
      (∃ content, tree.readBytes path = .ok (Text.encode content) ∧
        record = .ofText (keyOf root path) content (extractor.extract content)) ∧
      keyOf root path ∉ keysBefore examined position)
  unreadable_iff : ∀ (position : Nat) (path : Path) (result : Except Error (FileRecord α)),
    examined[position]? = some (path, result) →
    ((∃ fault, result = .error (.unreadable path fault) ∧ tree.readText path = .error fault) ↔
      ¬ tree.Legible path)
  duplicate_iff : ∀ (position : Nat) (path : Path) (result : Except Error (FileRecord α)),
    examined[position]? = some (path, result) →
    (result = .error (.duplicatePath (keyOf root path)) ↔
      tree.Legible path ∧ keyOf root path ∈ keysBefore examined position)
  first_iff : ∀ (position : Nat) (path : Path) (result : Except Error (FileRecord α)),
    examined[position]? = some (path, result) →
    ((∃ record, result = .ok record) ↔
      tree.Legible path ∧
        ∀ earlier ∈ examined.take position, tree.Legible earlier.1 →
          keyOf root earlier.1 ≠ keyOf root path)

/-- A file that holds text leaves its key taken, by itself or by an earlier file. -/
theorem key_taken_after {examined : Examined α} {position : Nat} {path : Path}
    {result : Except Error (FileRecord α)} (entry : examined[position]? = some (path, result))
    (fate : Fate tree extractor base (keysBefore examined position) path result)
    (legible : tree.Legible path) :
    path.relativeKey base ∈ keysBefore examined (position + 1) := by
  cases fate with
  | unreadable fault failed => exact absurd legible (readText_fails_iff.1 ⟨fault, failed⟩)
  | duplicate content text taken => exact keysBefore_mono examined (Nat.le_succ position) taken
  | record content text free => exact mem_keysBefore (Nat.lt_succ_self position) entry

/-- A key that is taken belongs to an earlier file that holds text. -/
theorem holder_of_key {examined : Examined α} {position : Nat} {key : String}
    (fates : ∀ index path result, examined[index]? = some (path, result) →
      Fate tree extractor base (keysBefore examined index) path result)
    (taken : key ∈ keysBefore examined position) :
    ∃ earlier ∈ examined.take position, tree.Legible earlier.1 ∧
      earlier.1.relativeKey base = key := by
  obtain ⟨record, member, rfl⟩ := List.mem_map.1 taken
  obtain ⟨⟨path, result⟩, inside, converted⟩ := List.mem_filterMap.1 member
  obtain ⟨index, _, entry⟩ := index_of_earlier inside
  refine ⟨(path, result), inside, ?_⟩
  cases fates index path result entry with
  | unreadable fault failed => cases converted
  | duplicate content text held => cases converted
  | record content text free =>
    cases converted
    exact ⟨⟨content, readText_eq_ok_iff.1 text⟩, rfl⟩

theorem settled_of_fates {examined : Examined α}
    (fates : ∀ position path result, examined[position]? = some (path, result) →
      Fate tree extractor (root.parent?.getD root) (keysBefore examined position) path result) :
    Settled tree extractor root examined where
  record_iff position path result record entry := by
    cases fates position path result entry with
    | unreadable fault failed =>
      refine iff_of_false (by simp) fun ⟨⟨content, reading, _⟩, _⟩ => ?_
      exact readText_fails_iff.1 ⟨fault, failed⟩ ⟨content, reading⟩
    | duplicate content text taken => exact iff_of_false (by simp) fun ⟨_, free⟩ => free taken
    | record content text free =>
      constructor
      · intro same
        cases same
        exact ⟨⟨content, readText_eq_ok_iff.1 text, rfl⟩, free⟩
      · rintro ⟨⟨other, reading, rfl⟩, _⟩
        rw [readText_eq_ok_iff.2 reading] at text
        cases text
        rfl
  unreadable_iff position path result entry := by
    rw [← readText_fails_iff]
    cases fates position path result entry with
    | unreadable fault failed => exact iff_of_true ⟨fault, rfl, failed⟩ ⟨fault, failed⟩
    | duplicate content text taken => simp [text]
    | record content text free => simp [text]
  duplicate_iff position path result entry := by
    cases fates position path result entry with
    | unreadable fault failed =>
      refine iff_of_false (by simp) fun ⟨legible, _⟩ => ?_
      exact readText_fails_iff.1 ⟨fault, failed⟩ legible
    | duplicate content text taken =>
      exact iff_of_true rfl ⟨⟨content, readText_eq_ok_iff.1 text⟩, taken⟩
    | record content text free => exact iff_of_false (by simp) fun ⟨_, taken⟩ => free taken
  first_iff position path result entry := by
    constructor
    · rintro ⟨record, rfl⟩
      cases fates position path _ entry with
      | record content text free =>
        refine ⟨⟨content, readText_eq_ok_iff.1 text⟩, fun earlier member legible same => free ?_⟩
        obtain ⟨index, before, inside⟩ := index_of_earlier member
        have held : keyOf root earlier.1 ∈ keysBefore examined (index + 1) :=
          key_taken_after inside (fates index _ _ inside) legible
        rw [same] at held
        exact keysBefore_mono examined before held
    · rintro ⟨legible, first⟩
      cases fates position path result entry with
      | unreadable fault failed => exact absurd legible (readText_fails_iff.1 ⟨fault, failed⟩)
      | duplicate content text taken =>
        obtain ⟨earlier, member, readable, same⟩ := holder_of_key fates taken
        exact absurd same (first earlier member readable)
      | record content text free => exact ⟨_, rfl⟩

def visits (scanner : Scanner) (tree : FileTree) (root : Path) : List Visit :=
  match openRoot? tree root with
  | none => []
  | some (location, entries) =>
    tree.walkEntries scanner.followLinks ⟨location, root⟩ [] entries

def found (scanner : Scanner) (tree : FileTree) (root : Path) : Discovery :=
  scanner.discover (scanner.visits tree root)

theorem openRoot?_of_directory (directory : tree.isDirectory root = true) :
    ∃ location entries, openRoot? tree root = some (location, entries) := by
  unfold isDirectory nodeAt? at directory
  cases reached : tree.locate root with
  | error fault => simp [reached] at directory
  | ok location =>
    simp only [reached] at directory
    cases found : tree.root.at? location with
    | none => simp [found] at directory
    | some node =>
      cases node with
      | file content => simp [found] at directory
      | link target => simp [found] at directory
      | directory entries => exact ⟨location, entries, by simp only [openRoot?, reached, found]⟩

theorem scan_of_opened (scanner : Scanner) (extractor : Extractor α) {location : Location}
    {entries : Entries} (opened : openRoot? tree root = some (location, entries)) :
    let files := (scanner.found tree root).files
    let failures := (scanner.found tree root).failures
    let examined := examine tree extractor (root.parent?.getD root) [] files
    ∃ inventory,
      Inventory.aggregate root.rootLabel (recordsOf examined) = .ok inventory ∧
      inventory.records = (recordsOf examined).reverse ∧
      scanner.scan tree extractor root =
        ⟨failures.map (fun error => .entrySkipped error.path) ++
            .rootScanned root files.length extractor.name ::
              (skippedOf examined).map fun file => .fileSkipped file.path,
          .ok ⟨inventory, failures.map (fun error => ⟨error.path, .walk error⟩) ++
            skippedOf examined⟩⟩ := by
  intro files failures examined
  obtain ⟨inventory, aggregated, _, holds⟩ :=
    Inventory.aggregate_of_distinct root.rootLabel (recordsOf examined)
      (examine_keys_distinct [] files).1
  refine ⟨inventory, aggregated, holds, ?_⟩
  have walked : scanner.visits tree root =
      tree.walkEntries scanner.followLinks ⟨location, root⟩ [] entries := by
    rw [visits, opened]
  simp only [scan, opened, ← walked]
  change (_ >>= fun _ => _ >>= fun _ => _ >>= fun _ =>
    Traced.ofExcept (Inventory.aggregate root.rootLabel (recordsOf examined)) >>= _) = _
  rw [aggregated]
  simp [Traced.log, Traced.ofExcept, files, failures, examined, found]

theorem filter_warnings {β : Type} (items : List β) (event : β → Event)
    (warns : ∀ item, (event item).isWarning = true) :
    (items.map event).filter (·.isWarning) = items.map event :=
  List.filter_eq_self.2 (by simpa using fun item _ => warns item)

theorem scan_settles_every_file (scanner : Scanner) (tree : FileTree) (extractor : Extractor α)
    (root : Path) (directory : tree.isDirectory root = true) :
    ∃ scanned examined,
      (scanner.scan tree extractor root).result = .ok scanned ∧
      examined.map (·.1) = (scanner.found tree root).files ∧
      Settled tree extractor root examined ∧
      Inventory.aggregate root.rootLabel (recordsOf examined) = .ok scanned.inventory ∧
      scanned.inventory.records.Perm (recordsOf examined) ∧
      scanned.inventory.size + (skippedOf examined).length =
        (scanner.found tree root).files.length ∧
      scanned.skipped =
        (scanner.found tree root).failures.map (fun error => ⟨error.path, .walk error⟩) ++
          skippedOf examined ∧
      ((scanner.scan tree extractor root).events.filter (·.isWarning)).map (·.path) =
        scanned.skipped.map (·.path) := by
  obtain ⟨location, entries, opened⟩ := openRoot?_of_directory directory
  obtain ⟨inventory, aggregated, holds, scanned⟩ := scan_of_opened scanner extractor opened
  let examined := examine tree extractor (root.parent?.getD root) [] (scanner.found tree root).files
  have paths : examined.map (·.1) = (scanner.found tree root).files := examine_paths [] _
  have fates : ∀ position path result, examined[position]? = some (path, result) →
      Fate tree extractor (root.parent?.getD root) (keysBefore examined position) path result := by
    intro position path result entry
    simpa using examine_fate entry
  rw [scanned]
  refine ⟨_, examined, rfl, paths, settled_of_fates fates, aggregated, ?_, ?_, rfl, ?_⟩
  · rw [holds]
    exact List.reverse_perm _
  · have parts := records_and_skips examined
    rw [← paths, List.length_map, ← parts]
    simp [Inventory.size, holds, examined]
  · rw [List.filter_append, List.filter_cons, filter_warnings _ _ fun _ => rfl,
      filter_warnings _ _ fun _ => rfl]
    simp [Event.isWarning, Event.path, Function.comp_def]

/-- Three files with one lossy name; the first of them holds no text. -/
def collidingTree : FileTree where
  root := .directory
    [(Text.encode "src", .directory
      [([0x61, 0xfd], .file [0xff]), ([0x61, 0xfe], .file []), ([0x61, 0xff], .file [])])]
  workingDirectory := []

theorem scan_settles_colliding_names :
    ∃ scanned examined,
      (Scanner.scan ⟨[[.anySequence]], true, false⟩ collidingTree .behaviors
        (.ofString "src")).result = .ok scanned ∧
      Settled collidingTree .behaviors (.ofString "src") examined ∧
      scanned.inventory.size + (skippedOf examined).length = 3 := by
  have directory : collidingTree.isDirectory (.ofString "src") = true := by cbv
  obtain ⟨scanned, examined, result, _, settled, _, _, count, _⟩ :=
    scan_settles_every_file ⟨[[.anySequence]], true, false⟩ collidingTree .behaviors
      (.ofString "src") directory
  refine ⟨scanned, examined, result, settled, count.trans ?_⟩
  cbv

end CodeInventory.Scanner
