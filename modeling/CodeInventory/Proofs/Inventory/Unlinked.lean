import CodeInventory.Proofs.FileTree.Listing
import CodeInventory.Proofs.Inventory.Accounting

namespace CodeInventory.Scanner

open CodeInventory.FileTree CodeInventory.Path CodeInventory.Source CodeInventory.Text

variable {α : Type} {tree : FileTree} {extractor : Extractor α} {base root : Path}
  {scanner : Scanner}

def withFreeKeys (taken : List String) : List (FileRecord α) → List (FileRecord α)
  | [] => []
  | record :: rest =>
    if record.path ∈ taken then withFreeKeys taken rest
    else record :: withFreeKeys (record.path :: taken) rest

theorem recordsOf_examine (taken : List String) (files : List Path) :
    recordsOf (examine tree extractor base taken files) =
      withFreeKeys taken (files.filterMap fun path =>
        (recordOf tree extractor base path).toOption) := by
  induction files generalizing taken with
  | nil => rfl
  | cons path rest ih =>
    rw [examine, List.filterMap_cons]
    cases result : recordOf tree extractor base path with
    | error cause => exact ih taken
    | ok record =>
      simp only [Except.toOption, withFreeKeys]
      split
      · exact ih taken
      · rw [recordsOf_record, ih]
        rfl

def wants (scanner : Scanner) (file : Location × Bytes) : Bool :=
  file.1.getLast?.any (fun name => scanner.patterns.any (·.accepts (decodeLossy name))) &&
    (decode? file.2).isSome

def wanted (scanner : Scanner) (tree : FileTree) (root : Path) : List (Location × Bytes) :=
  match openRoot? tree root with
  | none => []
  | some (_, entries) => (filesIn entries).filter scanner.wants

def recordBelow (extractor : Extractor α) (root : Path) (file : Location × Bytes) :
    Option (FileRecord α) :=
  if Fits root file.1 then
    (decode? file.2).map fun content =>
      .ofText (keyOf root (pathBelow root file.1)) content (extractor.extract content)
  else none

theorem openRoot?_eq_some {location : Location} {entries : Entries}
    (opened : openRoot? tree root = some (location, entries)) :
    tree.locate root = .ok location ∧ tree.root.at? location = some (.directory entries) := by
  unfold openRoot? at opened
  split at opened
  · cases opened
  · rename_i reached
    split at opened
    · rename_i found
      cases opened
      exact ⟨reached, found⟩
    · cases opened

theorem selects_pathBelow {names : Location} (nonempty : root.bytes ≠ [])
    (valid : ∀ name ∈ names, NameValid name) (deeper : names ≠ []) :
    scanner.selects (pathBelow root names) =
      names.getLast?.any fun name => scanner.patterns.any (·.accepts (decodeLossy name)) := by
  rw [selects, fileName?_pathBelow nonempty valid deeper]
  cases names.getLast? <;> rfl

def recordIfSelected (scanner : Scanner) (tree : FileTree) (extractor : Extractor α) (root path : Path) :
    Option (FileRecord α) :=
  if scanner.selects path then
    (recordOf tree extractor (root.parent?.getD root) path).toOption
  else none

theorem no_record_of_long (path : Path) (long : pathLimit < path.bytes.length) :
    scanner.recordIfSelected tree extractor root path = none := by
  have failed : ∃ fault, tree.readText path = .error fault := by
    refine readText_fails_iff.2 fun ⟨content, reading⟩ => ?_
    unfold readBytes at reading
    split at reading
    · cases reading
    · rename_i location reached
      exact absurd (locate_eq_ok reached).2.2.1 (Nat.not_le.2 long)
  obtain ⟨fault, failed⟩ := failed
  simp [recordIfSelected, recordOf, failed, Except.toOption]

theorem record_of_listed {tree : SoundTree} {location : Location} {entries : Entries}
    {file : Location × Bytes} (opened : openRoot? tree root = some (location, entries))
    (member : file ∈ filesIn entries) :
    scanner.recordIfSelected tree extractor root (pathBelow root file.1) =
      if scanner.wants file then recordBelow extractor root file else none := by
  obtain ⟨names, content⟩ := file
  obtain ⟨reached, directory⟩ := openRoot?_eq_some opened
  have inner : (Node.directory entries).WellFormed := Node.WellFormed.at? tree.wellFormed directory
  have below := (mem_files_iff inner).1 member
  have found : tree.root.at? (location ++ names) = some (.file content) := by
    rw [at?_append, directory]
    exact below
  have deeper : names ≠ [] := by
    rintro rfl
    cases below
  have valid := valid_of_at? inner below
  have reading := readBytes_pathBelow tree reached directory found
  rw [recordIfSelected, selects_pathBelow (locate_eq_ok reached).1 valid deeper, wants]
  by_cases selected : (names.getLast?.any fun name =>
      scanner.patterns.any (·.accepts (decodeLossy name))) = true
  · simp only [selected, if_true, Bool.true_and, recordBelow]
    by_cases fits : Fits root names
    · rw [if_pos fits] at reading
      cases decoded : decode? content with
      | none =>
        have failed : tree.readText (pathBelow root names) = .error .notText := by
          simp only [readText, reading, decoded]
        simp [recordOf, failed, Except.toOption]
      | some text =>
        have done : tree.readText (pathBelow root names) = .ok text := by
          simp only [readText, reading, decoded]
        simp [recordOf, done, Except.toOption, fits, keyOf]
    · rw [if_neg fits] at reading
      have refused : tree.readText (pathBelow root names) = .error (misfit names) := by
        simp only [readText, reading]
      simp [recordOf, refused, Except.toOption, fits]
  · simp [selected]

theorem found_records {tree : SoundTree} {location : Location} {entries : Entries}
    (unfollowed : scanner.followLinks = false)
    (opened : openRoot? tree root = some (location, entries)) :
    (scanner.found tree root).files.filterMap (fun path =>
        (recordOf tree extractor (root.parent?.getD root) path).toOption) =
      (scanner.wanted tree root).filterMap (recordBelow extractor root) := by
  have inner : (Node.directory entries).WellFormed :=
    Node.WellFormed.at? tree.wellFormed (openRoot?_eq_some opened).2
  calc (scanner.found tree root).files.filterMap _
      = (tree.walkEntries false ⟨location, root⟩ [] entries).filterMap
          (Visit.keptBy (scanner.recordIfSelected tree extractor root)) := by
        simp only [found, discover, visits, opened, unfollowed, List.filterMap_filterMap]
        congr 1
        funext visit
        cases visit with
        | failed error => rfl
        | file path =>
          by_cases selected : scanner.selects path = true
          · simp [selected, Visit.keptBy, recordIfSelected]
          · simp [selected, Visit.keptBy, recordIfSelected]
    _ = (filesIn entries).filterMap fun file =>
          scanner.recordIfSelected tree extractor root (pathBelow root file.1) :=
        walkKeeps tree no_record_of_long inner ⟨location, root⟩ []
    _ = (filesIn entries).filterMap fun file =>
          if scanner.wants file then recordBelow extractor root file else none :=
        List.filterMap_congr fun file member => record_of_listed opened member
    _ = (scanner.wanted tree root).filterMap (recordBelow extractor root) := by
        simp only [wanted, opened, List.filterMap_filter]

theorem scan_inventory {tree : SoundTree} {scanned : Scanned α}
    (unfollowed : scanner.followLinks = false)
    (done : (scanner.scan tree extractor root).result = .ok scanned) :
    Inventory.aggregate root.rootLabel
        (withFreeKeys [] ((scanner.wanted tree root).filterMap (recordBelow extractor root))) =
      .ok scanned.inventory := by
  cases opened : openRoot? tree root with
  | none =>
    simp only [scan, opened] at done
    split at done
    · cases done
      simp only [wanted, opened]
      rfl
    · cases done
  | some place =>
    obtain ⟨location, entries⟩ := place
    obtain ⟨inventory, aggregated, _, result⟩ := scan_of_opened scanner extractor opened
    rw [result] at done
    cases done
    rw [← found_records unfollowed opened, ← recordsOf_examine]
    exact aggregated

/-- A file below a root, reached through directories only, whose name matches and whose bytes are
text. -/
structure Wanted (scanner : Scanner) (tree : FileTree) (root : Path) (names : Location)
    (content : String) : Prop where
  reached : ∃ location, tree.locate root = .ok location ∧
    tree.root.at? (location ++ names) = some (.file (encode content))
  selected : ∃ name, names.getLast? = some name ∧
    scanner.patterns.any (·.accepts (decodeLossy name)) = true

theorem mem_wanted_iff {tree : SoundTree} {names : Location} {bytes : Bytes} :
    (names, bytes) ∈ scanner.wanted tree root ↔
      ∃ content, bytes = encode content ∧ scanner.Wanted tree root names content := by
  constructor
  · intro member
    unfold wanted at member
    split at member
    · cases member
    · rename_i location entries opened
      obtain ⟨reached, directory⟩ := openRoot?_eq_some opened
      obtain ⟨listed, wants⟩ := List.mem_filter.1 member
      obtain ⟨selected, decodes⟩ := Bool.and_eq_true_iff.1 wants
      obtain ⟨content, decoded⟩ := Option.isSome_iff_exists.1 decodes
      obtain rfl := decode?_eq_some_iff.1 decoded
      refine ⟨content, rfl, ⟨location, reached, ?_⟩, (Option.any_eq_true _ _).1 selected⟩
      rw [at?_append, directory]
      exact (mem_files_iff (Node.WellFormed.at? tree.wellFormed directory)).1 listed
  · rintro ⟨content, rfl, ⟨location, reached, found⟩, name, last, selected⟩
    have parts := found
    rw [at?_append] at parts
    obtain ⟨node, here, below⟩ := Option.bind_eq_some_iff.1 parts
    cases node with
    | file bytes =>
      cases names with
      | nil => cases last
      | cons first rest => cases below
    | link target =>
      cases names with
      | nil => cases last
      | cons first rest => cases below
    | directory entries =>
      have opened : openRoot? tree root = some (location, entries) := by
        simp only [openRoot?, reached, here]
      simp only [wanted, opened]
      refine List.mem_filter.2 ⟨?_, ?_⟩
      · exact (mem_files_iff (Node.WellFormed.at? tree.wellFormed here)).2 below
      · simp [wants, last, selected, decode?_encode]

theorem wanted_increasing (scanner : Scanner) (tree : SoundTree) (root : Path) :
    (scanner.wanted tree root).Pairwise fun a b => a.1 < b.1 := by
  unfold wanted
  split
  · exact .nil
  · rename_i location entries opened
    have inner := Node.WellFormed.at? tree.wellFormed (openRoot?_eq_some opened).2
    exact (files_increasing inner).filter _

theorem nodup_of_increasing {files : List (Location × Bytes)}
    (increasing : files.Pairwise fun a b => a.1 < b.1) : files.Nodup := by
  refine increasing.imp fun {a b} less equal => ?_
  rw [equal] at less
  exact List.lt_irrefl _ less

/-- Wanted files come in increasing order of their names, so the same files make the same list. -/
theorem wanted_eq {first second : SoundTree}
    (same : ∀ names content,
      scanner.Wanted first root names content ↔ scanner.Wanted second root names content) :
    scanner.wanted first root = scanner.wanted second root := by
  have orderedFirst := wanted_increasing scanner first root
  have orderedSecond := wanted_increasing scanner second root
  have members : ∀ file, file ∈ scanner.wanted first root ↔ file ∈ scanner.wanted second root := by
    intro file
    rw [mem_wanted_iff, mem_wanted_iff]
    simp only [same]
  have permuted := (List.perm_ext_iff_of_nodup (nodup_of_increasing orderedFirst)
    (nodup_of_increasing orderedSecond)).2 members
  refine permuted.eq_of_pairwise (fun a b _ _ less greater => ?_) orderedFirst orderedSecond
  exact absurd greater (List.lt_asymm less)

end CodeInventory.Scanner
