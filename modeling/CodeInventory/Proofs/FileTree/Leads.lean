import CodeInventory.Proofs.FileTree.Placement

namespace CodeInventory.FileTree

open CodeInventory.Path CodeInventory.Text

structure LookedUp (purpose : Purpose) (segment : Bytes) (rest : List Bytes) : Prop where
  notIdle : ¬ isIdle segment = true
  notUp : segment ≠ dots
  unslashed : ¬ (purpose = .writing ∧ rest ≠ [] ∧ rest.all (· = []))
  short : ¬ nameLimit < segment.length

/-- One rule for each way a segment can be passed. The rules hold of exactly the resolutions that
succeed, so what resolving does is shown by induction on them. -/
inductive Leads (tree : FileTree) (purpose : Purpose) :
    Nat → Location → List Bytes → Place → Prop where
  | arrived (links : Nat) (here : Location) : Leads tree purpose links here [] (.occupied here)
  | idle {links here segment rest place} (idle : isIdle segment = true)
      (next : Leads tree purpose links here rest place) :
      Leads tree purpose links here (segment :: rest) place
  | up {links here rest place} (next : Leads tree purpose links here.dropLast rest place) :
      Leads tree purpose links here (dots :: rest) place
  | directory {links here segment rest place} (looked : LookedUp purpose segment rest)
      (found : tree.kindAt? (here ++ [segment]) = some .directory)
      (next : Leads tree purpose links (here ++ [segment]) rest place) :
      Leads tree purpose links here (segment :: rest) place
  | free {links here segment} (looked : LookedUp purpose segment [])
      (missing : tree.kindAt? (here ++ [segment]) = none) :
      Leads tree purpose links here [segment] (.free here segment)
  | file {links here segment content} (looked : LookedUp purpose segment [])
      (found : tree.kindAt? (here ++ [segment]) = some (.file content)) :
      Leads tree purpose links here [segment] (.occupied (here ++ [segment]))
  | entry {links here segment target} (looked : LookedUp purpose segment [])
      (found : tree.kindAt? (here ++ [segment]) = some (.link target)) (last : purpose = .entry) :
      Leads tree purpose links here [segment] (.occupied (here ++ [segment]))
  | link {links here segment rest target place} (looked : LookedUp purpose segment rest)
      (found : tree.kindAt? (here ++ [segment]) = some (.link target))
      (followed : ¬ (rest = [] ∧ purpose = .entry)) (nonempty : target.bytes ≠ [])
      (next : Leads tree purpose links (origin target here) (segmentsOf target.bytes ++ rest)
        place) :
      Leads tree purpose (links + 1) here (segment :: rest) place

variable {tree : FileTree} {purpose : Purpose} {links : Nat} {here : Location}
  {segment : Bytes} {segments rest : List Bytes} {place : Place}

theorem descend_lookedUp (looked : LookedUp purpose segment rest) :
    descend tree purpose links here (segment :: rest) =
      match tree.root.at? (here ++ [segment]) with
      | none => if rest = [] then .ok (.free here segment) else .error .notFound
      | some (.directory _) => descend tree purpose links (here ++ [segment]) rest
      | some (.file _) =>
        if rest = [] then .ok (.occupied (here ++ [segment])) else .error .notDirectory
      | some (.link target) =>
        if rest = [] ∧ purpose = .entry then .ok (.occupied (here ++ [segment]))
        else if target.bytes = [] then .error .notFound
        else match links with
          | 0 => .error .tooManyLinks
          | links + 1 =>
            descend tree purpose links (origin target here) (segmentsOf target.bytes ++ rest) := by
  rw [descend, if_neg looked.notIdle, if_neg looked.notUp, if_neg looked.unslashed]
  exact if_neg looked.short

theorem leads_of_descend (reached : descend tree purpose links here segments = .ok place) :
    Leads tree purpose links here segments place := by
  fun_induction descend tree purpose links here segments with
  | case1 links here =>
    cases reached
    exact .arrived links here
  | case2 links here segment rest idle ih => exact .idle idle (ih reached)
  | case3 links here rest notIdle ih => exact .up (ih reached)
  | case4 | case5 | case7 | case10 | case12 | case13 => cases reached
  | case6 links here segment notIdle notUp short missing unslashed =>
    cases reached
    exact .free ⟨notIdle, notUp, unslashed, short⟩ (kindAt?_eq_none.2 missing)
  | case8 links here segment rest notIdle notUp unslashed short entries found ih =>
    exact .directory ⟨notIdle, notUp, unslashed, short⟩ (kindAt?_of_at? found) (ih reached)
  | case9 links here segment notIdle notUp short content found unslashed =>
    cases reached
    exact .file ⟨notIdle, notUp, unslashed, short⟩ (kindAt?_of_at? found)
  | case11 links here segment rest notIdle notUp unslashed short target found last =>
    cases reached
    obtain ⟨rfl, entry⟩ := last
    exact .entry ⟨notIdle, notUp, unslashed, short⟩ (kindAt?_of_at? found) entry
  | case14 here segment rest notIdle notUp unslashed short target found followed nonempty links ih =>
    exact .link ⟨notIdle, notUp, unslashed, short⟩ (kindAt?_of_at? found) followed nonempty
      (ih reached)

theorem Leads.descend (leads : Leads tree purpose links here segments place) :
    FileTree.descend tree purpose links here segments = .ok place := by
  induction leads with
  | arrived links here => rw [FileTree.descend]
  | idle idle next ih => rw [FileTree.descend, if_pos idle, ih]
  | up next ih => rw [FileTree.descend, if_neg (by decide), if_pos rfl, ih]
  | directory looked found next ih =>
    obtain ⟨entries, there⟩ := kindAt?_directory.1 found
    rw [descend_lookedUp looked, there]
    exact ih
  | free looked missing =>
    rw [descend_lookedUp looked, kindAt?_eq_none.1 missing]
    exact if_pos rfl
  | file looked found =>
    rw [descend_lookedUp looked, kindAt?_file.1 found]
    exact if_pos rfl
  | entry looked found last =>
    rw [descend_lookedUp looked, kindAt?_link.1 found]
    exact if_pos ⟨rfl, last⟩
  | link looked found followed nonempty next ih =>
    rw [descend_lookedUp looked, kindAt?_link.1 found]
    simp only [if_neg followed, if_neg nonempty]
    exact ih

theorem descend_ok_iff : descend tree purpose links here segments = .ok place ↔
    Leads tree purpose links here segments place := ⟨leads_of_descend, Leads.descend⟩

/-- What is looked for, unless it is a link that the path ends in, is found by following links too. -/
theorem Leads.target {place : Place} (leads : Leads tree purpose links here segments place)
    (notLink : ∀ location target, place = .occupied location →
      tree.kindAt? location ≠ some (.link target)) :
    Leads tree .target links here segments place := by
  have looked : ∀ {segment rest}, LookedUp purpose segment rest → LookedUp .target segment rest :=
    fun looked => ⟨looked.notIdle, looked.notUp, by simp, looked.short⟩
  induction leads with
  | arrived links here => exact .arrived links here
  | idle idle next ih => exact .idle idle (ih notLink)
  | up next ih => exact .up (ih notLink)
  | directory up found next ih => exact .directory (looked up) found (ih notLink)
  | free up missing => exact .free (looked up) missing
  | file up found => exact .file (looked up) found
  | entry up found last => exact absurd found (notLink _ _ rfl)
  | link up found followed nonempty next ih =>
    exact .link (looked up) found (by simp) nonempty (ih notLink)

theorem Leads.entry_of_target {location : Location}
    (leads : Leads tree .target links here segments (.occupied location)) :
    ∃ entry, Leads tree .entry links here segments (.occupied entry) := by
  have looked : ∀ {segment rest}, LookedUp .target segment rest → LookedUp .entry segment rest :=
    fun looked => ⟨looked.notIdle, looked.notUp, by simp, looked.short⟩
  generalize same : Place.occupied location = place at leads
  induction leads with
  | arrived links here => exact ⟨here, .arrived links here⟩
  | idle idle next ih =>
    obtain ⟨entry, leads⟩ := ih same
    exact ⟨entry, .idle idle leads⟩
  | up next ih =>
    obtain ⟨entry, leads⟩ := ih same
    exact ⟨entry, .up leads⟩
  | directory up found next ih =>
    obtain ⟨entry, leads⟩ := ih same
    exact ⟨entry, .directory (looked up) found leads⟩
  | free up missing => cases same
  | file up found => exact ⟨_, .file (looked up) found⟩
  | entry up found last => cases last
  | @link links here segment rest target place up found followed nonempty next ih =>
    -- a link at the end is itself the entry; any other is followed either way
    by_cases last : rest = []
    · subst last
      exact ⟨_, .entry (looked up) found rfl⟩
    · obtain ⟨entry, leads⟩ := ih same
      exact ⟨entry, .link (looked up) found (by simp [last]) nonempty leads⟩

theorem directory_dropLast {location : Location}
    (found : tree.kindAt? location = some .directory) :
    tree.kindAt? location.dropLast = some .directory := by
  rcases List.eq_nil_or_concat location with rfl | ⟨upper, name, rfl⟩
  · exact found
  · rw [List.concat_eq_append] at found ⊢
    rw [List.dropLast_concat]
    exact directory_above found (by simp)

theorem directory_origin {location : Location} (path : Path)
    (found : tree.kindAt? location = some .directory) :
    tree.kindAt? (origin path location) = some .directory := by
  unfold origin
  split
  · by_cases top : location = []
    · exact top ▸ found
    · exact directory_above found top
  · exact found

theorem Leads.free_home {directory : Location} {name : Name}
    (leads : Leads tree purpose links here segments (.free directory name))
    (start : tree.kindAt? here = some .directory) :
    tree.kindAt? directory = some .directory ∧ tree.kindAt? (directory ++ [name]) = none := by
  generalize same : Place.free directory name = place at leads
  induction leads with
  | arrived links here => cases same
  | idle idle next ih => exact ih start same
  | up next ih => exact ih (directory_dropLast start) same
  | directory looked found next ih => exact ih found same
  | free looked missing =>
    cases same
    exact ⟨start, missing⟩
  | file looked found => cases same
  | entry looked found last => cases same
  | link looked found followed nonempty next ih => exact ih (directory_origin _ start) same

theorem Leads.file_home {location : Location} {content : Bytes}
    (leads : Leads tree purpose links here segments (.occupied location))
    (start : tree.kindAt? here = some .directory)
    (file : tree.kindAt? location = some (.file content))
    (noSlash : ∀ segment ∈ segments, slash ∉ segment) :
    ∃ directory name, location = directory ++ [name] ∧ NameValid name ∧
      tree.kindAt? directory = some .directory := by
  generalize same : Place.occupied location = place at leads
  induction leads with
  | arrived links here =>
    cases same
    rw [start] at file
    cases file
  | idle idle next ih => exact ih start (fun _ member => noSlash _ (.tail _ member)) same
  | up next ih =>
    exact ih (directory_dropLast start) (fun _ member => noSlash _ (.tail _ member)) same
  | directory looked found next ih =>
    exact ih found (fun _ member => noSlash _ (.tail _ member)) same
  | free looked missing => cases same
  | @file links here segment content looked found =>
    cases same
    have named : segment ≠ [] ∧ segment ≠ dot := by simpa [isIdle] using looked.notIdle
    exact ⟨here, segment, rfl, ⟨named.1, named.2, looked.notUp, noSlash _ (.head _)⟩, start⟩
  | entry looked found last =>
    cases same
    rw [found] at file
    cases file
  | link looked found followed nonempty next ih =>
    refine ih (directory_origin _ start) (fun segment member => ?_) same
    rcases List.mem_append.1 member with member | member
    · exact no_slash_in_segments member
    · exact noSlash _ (.tail _ member)

structure Usable (path : Path) : Prop where
  nonempty : path.bytes ≠ []
  noZero : 0 ∉ path.bytes
  fits : path.bytes.length ≤ pathLimit

theorem resolve_ok_iff {path : Path} : tree.resolve purpose path = .ok place ↔
    Usable path ∧ Leads tree purpose linkLimit (origin path tree.workingDirectory)
      (segmentsOf path.bytes) place := by
  rw [← descend_ok_iff]
  unfold resolve
  by_cases empty : path.bytes = []
  · rw [if_pos empty]
    exact iff_of_false (by simp) fun ⟨usable, _⟩ => usable.nonempty empty
  · rw [if_neg empty]
    by_cases zero : path.bytes.contains 0 = true
    · rw [if_pos zero]
      exact iff_of_false (by simp) fun ⟨usable, _⟩ => usable.noZero (by simpa using zero)
    · rw [if_neg zero]
      by_cases long : pathLimit < path.bytes.length
      · rw [if_pos long]
        exact iff_of_false (by simp) fun ⟨usable, _⟩ => absurd usable.fits (Nat.not_le.2 long)
      · rw [if_neg long]
        constructor
        · intro reached
          exact ⟨⟨empty, by simpa using zero, Nat.le_of_not_lt long⟩, reached⟩
        · exact And.right

theorem locate_ok_iff {path : Path} {location : Location} : tree.locate path = .ok location ↔
    Usable path ∧ Leads tree .target linkLimit (origin path tree.workingDirectory)
      (segmentsOf path.bytes) (.occupied location) := by
  rw [← resolve_ok_iff]
  unfold locate
  cases tree.resolve .target path with
  | error fault => simp
  | ok place => cases place <;> simp

theorem isDirectory_iff {path : Path} : tree.isDirectory path = true ↔
    ∃ location, tree.locate path = .ok location ∧ tree.kindAt? location = some .directory := by
  unfold isDirectory nodeAt?
  cases tree.locate path with
  | error fault => simp
  | ok location =>
    simp only [Except.ok.injEq, exists_eq_left', kindAt?_directory]
    cases tree.root.at? location with
    | none => simp
    | some node => cases node <;> simp

end CodeInventory.FileTree
