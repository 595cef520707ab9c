import Mathlib
import CodeInventory.Settings.Decode

namespace CodeInventory

def Format.label : Format → String
  | .markdown => "markdown"
  | .json => "json"

namespace Settings

open CodeInventory.Document

inductive Table where
  | project
  | root (part : Section)
  | scan
  | output
  deriving DecidableEq

def Table.label : Table → String
  | project => "project"
  | root part => part.name
  | scan => "scan"
  | output => "output"

inductive Key where
  | name
  | dir (part : Section)
  | patterns (part : Section)
  | allowMissingRoots
  | followLinks
  | path
  | format
  deriving DecidableEq

namespace Key

def table : Key → Table
  | name => .project
  | dir part | patterns part => .root part
  | allowMissingRoots | followLinks => .scan
  | path | format => .output

def label : Key → String
  | name => "name"
  | dir _ => "dir"
  | patterns _ => "patterns"
  | allowMissingRoots => "allow_missing_roots"
  | followLinks => "follow_links"
  | path => "path"
  | format => "format"

def Required : Key → Prop
  | dir _ | patterns _ => True
  | _ => False

end Key

def rootOf (settings : Settings) : Section → RootSettings
  | .sources => settings.sources
  | .benches => settings.benches
  | .tests => settings.tests

def Key.value (settings : Settings) (report : String) : Key → Value
  | name => .string settings.projectName
  | dir part => .string (settings.rootOf part).dir
  | patterns part => .array ((settings.rootOf part).patterns.map .string)
  | allowMissingRoots => .boolean settings.allowMissingRoots
  | followLinks => .boolean settings.followLinks
  | path => .string report
  | format => .string settings.outputFormat.label

structure Outline where
  tables : List (Table × List Key)
  tablesOnce : (tables.map Prod.fst).Nodup
  keysOnce : ∀ entry ∈ tables, entry.2.Nodup
  keysOwn : ∀ entry ∈ tables, ∀ key ∈ entry.2, key.table = entry.1

namespace Outline

def keys (outline : Outline) : List Key := outline.tables.flatMap Prod.snd

def names (outline : Outline) : List Table := outline.tables.map Prod.fst

/-- The table of the key is there, the key is not. -/
def Lacks (outline : Outline) (key : Key) : Prop := key.table ∈ outline.names ∧ key ∉ outline.keys

/-- The settings as far as they are given: roots as a whole, everything else key by key. -/
def restored (outline : Outline) (settings : Settings) : Settings where
  projectName := if .name ∈ outline.keys then settings.projectName else default.projectName
  sources := if .root .sources ∈ outline.names then settings.sources else default.sources
  benches := if .root .benches ∈ outline.names then settings.benches else default.benches
  tests := if .root .tests ∈ outline.names then settings.tests else default.tests
  allowMissingRoots :=
    if .allowMissingRoots ∈ outline.keys then settings.allowMissingRoots
    else default.allowMissingRoots
  followLinks := if .followLinks ∈ outline.keys then settings.followLinks else default.followLinks
  outputPath := if .path ∈ outline.keys then settings.outputPath else default.outputPath
  outputFormat := if .format ∈ outline.keys then settings.outputFormat else default.outputFormat

end Outline

variable {settings sofar : Settings} {report : String} {part : Section} {keys : List Key}
  {key : Key}

def entries (settings : Settings) (report : String) (keys : List Key) : List (String × Value) :=
  keys.map fun key => (key.label, key.value settings report)

def Outline.document (outline : Outline) (settings : Settings) (report : String) :
    List (String × List (String × Value)) :=
  outline.tables.map fun entry => (entry.1.label, entries settings report entry.2)

section Keys

theorem Table.label_injective : Function.Injective Table.label := by
  rintro (_ | ⟨_ | _ | _⟩ | _ | _) (_ | ⟨_ | _ | _⟩ | _ | _) same
  all_goals first | rfl | exact absurd same (by decide)

theorem Key.required_iff : key.Required ↔ ∃ part, key = .dir part ∨ key = .patterns part := by
  cases key <;> simp [Key.Required]

theorem Key.eq_of_label {other : Key} (home : key.table = other.table)
    (same : key.label = other.label) : key = other := by
  cases key <;> cases other <;> simp_all [Key.table, Key.label]

end Keys

section Restoring

def restore (settings sofar : Settings) (keys : List Key) : Settings where
  projectName := if .name ∈ keys then settings.projectName else sofar.projectName
  sources := if .dir .sources ∈ keys then settings.sources else sofar.sources
  benches := if .dir .benches ∈ keys then settings.benches else sofar.benches
  tests := if .dir .tests ∈ keys then settings.tests else sofar.tests
  allowMissingRoots :=
    if .allowMissingRoots ∈ keys then settings.allowMissingRoots else sofar.allowMissingRoots
  followLinks := if .followLinks ∈ keys then settings.followLinks else sofar.followLinks
  outputPath := if .path ∈ keys then settings.outputPath else sofar.outputPath
  outputFormat := if .format ∈ keys then settings.outputFormat else sofar.outputFormat

def restoreRoot (part : Section) (given : RootSettings) (sofar : PartialRoot) (keys : List Key) :
    PartialRoot where
  dir := if .dir part ∈ keys then some given.dir else sofar.dir
  patterns := if .patterns part ∈ keys then some given.patterns else sofar.patterns

theorem ite_mem_append {α : Type} (keys more : List Key) (key : Key) (a b : α) :
    (if key ∈ more then a else if key ∈ keys then a else b) =
      if key ∈ keys ++ more then a else b := by
  by_cases here : key ∈ more <;> by_cases before : key ∈ keys <;> simp [here, before]

theorem restore_append (settings sofar : Settings) (keys more : List Key) :
    restore settings (restore settings sofar keys) more =
      restore settings sofar (keys ++ more) := by
  simp only [restore, ite_mem_append]

theorem restoreRoot_append (part : Section) (given : RootSettings) (sofar : PartialRoot)
    (keys more : List Key) :
    restoreRoot part given (restoreRoot part given sofar keys) more =
      restoreRoot part given sofar (keys ++ more) := by
  simp only [restoreRoot, ite_mem_append]

/-- A fold whose steps each restore some keys restores all of them. -/
theorem foldlM_restores {σ α : Type} {step : σ → α → Decoded σ} {restore : σ → List Key → σ}
    {keysOf : α → List Key} {items : List α} (none : ∀ sofar, restore sofar [] = sofar)
    (append : ∀ sofar keys more,
      restore (restore sofar keys) more = restore sofar (keys ++ more))
    (each : ∀ item ∈ items, ∀ sofar, step sofar item = .ok (restore sofar (keysOf item)))
    (sofar : σ) : items.foldlM step sofar = .ok (restore sofar (items.flatMap keysOf)) := by
  induction items generalizing sofar with
  | nil => rw [List.flatMap_nil, none, List.foldlM_nil]; rfl
  | cons item items ih =>
    have first := each item (by simp) sofar
    have others := ih (fun item member => each item (by simp [member]))
      (restore sofar (keysOf item))
    rw [List.foldlM_cons, first, List.flatMap_cons, ← append]
    exact others

theorem foldlM_keys {σ : Type} {fields : List (Field σ)} {restore : σ → List Key → σ}
    (none : ∀ sofar, restore sofar [] = sofar)
    (append : ∀ sofar keys more, restore (restore sofar keys) more = restore sofar (keys ++ more))
    (each : ∀ key ∈ keys, ∀ sofar,
      setField fields sofar (key.label, key.value settings report) = .ok (restore sofar [key]))
    (sofar : σ) :
    (entries settings report keys).foldlM (setField fields) sofar = .ok (restore sofar keys) := by
  have folded : keys.foldlM
      (fun sofar key => setField fields sofar (key.label, key.value settings report)) sofar =
      .ok (restore sofar (keys.flatMap fun key => [key])) := foldlM_restores none append each sofar
  rw [List.flatMap_singleton'] at folded
  rw [entries, List.foldlM_map]
  exact folded

end Restoring

section Decoding

theorem texts_strings (items : List String) : texts (.array (items.map .string)) = .ok items := by
  change (items.map Value.string).mapM text = .ok items
  induction items with
  | nil => rfl
  | cons item items ih =>
    rw [List.map_cons, List.mapM_cons, ih]
    rfl

theorem variant_label (format : Format) : variant format.label = .ok format := by
  cases format <;> rfl

def Table.fields : Table → List (Field Settings)
  | project => projectFields
  | root _ => []
  | scan => scanFields
  | output => outputFields tomlDialect

theorem setField_key (named : settings.outputPath = .ofString report) (free : ¬ key.Required)
    (sofar : Settings) :
    setField key.table.fields sofar (key.label, key.value settings report) =
      .ok (restore settings sofar [key]) := by
  cases key with
  | dir part => exact absurd trivial free
  | patterns part => exact absurd trivial free
  | name => rfl
  | allowMissingRoots => rfl
  | followLinks => rfl
  | path =>
    unfold restore
    rw [named]
    rfl
  | format =>
    change (variant settings.outputFormat.label).map _ = _
    rw [variant_label]
    rfl

theorem setField_rootKey (home : key.table = .root part) (sofar : PartialRoot) :
    setField rootFields sofar (key.label, key.value settings report) =
      .ok (restoreRoot part (settings.rootOf part) sofar [key]) := by
  cases key with
  | dir other =>
    cases home
    simp [restoreRoot]
    rfl
  | patterns other =>
    cases home
    change (texts (.array ((settings.rootOf part).patterns.map .string))).map _ = _
    rw [texts_strings]
    simp [restoreRoot, Except.map]
  | name => cases home
  | allowMissingRoots => cases home
  | followLinks => cases home
  | path => cases home
  | format => cases home

def withRoot (settings : Settings) (root : RootSettings) : Section → Settings
  | .sources => { settings with sources := root }
  | .benches => { settings with benches := root }
  | .tests => { settings with tests := root }

theorem setField_rootTable (part : Section) (sofar : Settings) (value : Value) :
    setField (settingsFields tomlDialect) sofar ((Table.root part).label, value) =
      (root tomlDialect value).map (sofar.withRoot · part) := by
  cases part <;> rfl

theorem setField_freeTable {table : Table} (free : ∀ part, table ≠ .root part) (sofar : Settings)
    (given : List (String × Value)) :
    setField (settingsFields tomlDialect) sofar (table.label, .table given) =
      given.foldlM (setField table.fields) sofar := by
  cases table with
  | root part => exact absurd rfl (free part)
  | project => rfl
  | scan => rfl
  | output => rfl

/-- A root is read only with both of its keys, and the directory is looked for first. -/
theorem root_entries (own : ∀ key ∈ keys, key.table = .root part) :
    root tomlDialect (.table (entries settings report keys)) =
      if .dir part ∉ keys then .error (.missingField "dir")
      else if .patterns part ∉ keys then .error (.missingField "patterns")
      else .ok (settings.rootOf part) := by
  have found : fields tomlDialect "RootConfig" rootFields {}
      (.table (entries settings report keys)) =
      .ok (restoreRoot part (settings.rootOf part) {} keys) :=
    foldlM_keys (fun _ => rfl) (restoreRoot_append part _)
      (fun key member => setField_rootKey (own key member)) {}
  unfold root
  rw [found]
  by_cases dir : Key.dir part ∈ keys <;> by_cases patterns : Key.patterns part ∈ keys
  all_goals simp [restoreRoot, dir, patterns, Bind.bind, Except.bind]
  all_goals rfl

def Complete (entry : Table × List Key) : Prop :=
  ∀ part, entry.1 = .root part → .dir part ∈ entry.2 ∧ .patterns part ∈ entry.2

theorem restore_root (own : ∀ key ∈ keys, key.table = .root part) (given : .dir part ∈ keys)
    (sofar : Settings) :
    restore settings sofar keys = sofar.withRoot (settings.rootOf part) part := by
  have foreign : ∀ key : Key, key.table ≠ .root part → key ∉ keys :=
    fun key other member => other (own key member)
  have name := foreign .name (by simp [Key.table])
  have allow := foreign .allowMissingRoots (by simp [Key.table])
  have follow := foreign .followLinks (by simp [Key.table])
  have path := foreign .path (by simp [Key.table])
  have format := foreign .format (by simp [Key.table])
  have dirs : ∀ other, .dir other ∈ keys ↔ other = part := by
    intro other
    constructor
    · intro member
      exact Table.root.inj (own _ member)
    · rintro rfl
      exact given
  cases part <;>
    simp [restore, withRoot, rootOf, name, allow, follow, path, format, dirs]

def setTable (settings : Settings) (report : String) (sofar : Settings)
    (entry : Table × List Key) : Decoded Settings :=
  setField (settingsFields tomlDialect) sofar
    (entry.1.label, .table (entries settings report entry.2))

variable {entry : Table × List Key}

theorem setTable_complete (named : settings.outputPath = .ofString report)
    (own : ∀ key ∈ entry.2, key.table = entry.1) (complete : Complete entry) (sofar : Settings) :
    setTable settings report sofar entry = .ok (restore settings sofar entry.2) := by
  unfold setTable
  -- a root is set as a whole, every other table key by key
  by_cases isRoot : ∃ part, entry.1 = .root part
  · rcases isRoot with ⟨part, home⟩
    rw [home] at own
    rcases complete part home with ⟨dir, patterns⟩
    rw [home, setField_rootTable, root_entries own, if_neg (not_not.2 dir),
      if_neg (not_not.2 patterns), restore_root own dir]
    rfl
  · push Not at isRoot
    rw [setField_freeTable isRoot]
    refine foldlM_keys (fun _ => rfl) (restore_append settings) ?_ sofar
    intro key member sofar
    have free : ¬ key.Required := by
      intro required
      rcases Key.required_iff.1 required with ⟨part, rfl | rfl⟩ <;>
        exact isRoot part (own _ member).symm
    rw [← own key member]
    exact setField_key named free sofar

theorem setTable_incomplete (own : ∀ key ∈ entry.2, key.table = entry.1)
    (incomplete : ¬ Complete entry) (sofar : Settings) :
    ∃ key : Key, key.Required ∧ key.table = entry.1 ∧ key ∉ entry.2 ∧
      setTable settings report sofar entry = .error (.missingField key.label) := by
  unfold Complete at incomplete
  push Not at incomplete
  rcases incomplete with ⟨part, home, missing⟩
  rw [home] at own
  rw [setTable, home, setField_rootTable, root_entries own]
  by_cases dir : .dir part ∈ entry.2
  · refine ⟨.patterns part, trivial, rfl, missing dir, ?_⟩
    rw [if_neg (not_not.2 dir), if_pos (missing dir)]
    rfl
  · refine ⟨.dir part, trivial, rfl, dir, ?_⟩
    rw [if_pos dir]
    rfl

theorem foldlM_incomplete (named : settings.outputPath = .ofString report)
    {tables : List (Table × List Key)}
    (own : ∀ entry ∈ tables, ∀ key ∈ entry.2, key.table = entry.1)
    (incomplete : ∃ entry ∈ tables, ¬ Complete entry) (sofar : Settings) :
    ∃ entry ∈ tables, ∃ key : Key, key.Required ∧ key.table = entry.1 ∧ key ∉ entry.2 ∧
      tables.foldlM (setTable settings report) sofar = .error (.missingField key.label) := by
  -- the tables before the first incomplete one only change what the fold goes on with
  induction tables generalizing sofar with
  | nil => simp at incomplete
  | cons first tables ih =>
    by_cases complete : Complete first
    · have later : ∃ entry ∈ tables, ¬ Complete entry := by
        rcases incomplete with ⟨entry, member, incomplete⟩
        rcases List.mem_cons.1 member with rfl | member
        · exact absurd complete incomplete
        · exact ⟨entry, member, incomplete⟩
      rcases ih (fun entry member => own entry (by simp [member])) later
        (restore settings sofar first.2) with ⟨entry, member, key, required, home, missing, failed⟩
      refine ⟨entry, by simp [member], key, required, home, missing, ?_⟩
      rw [List.foldlM_cons, setTable_complete named (own first (by simp)) complete]
      exact failed
    · rcases setTable_incomplete (own first (by simp)) complete sofar
        with ⟨key, required, home, missing, failed⟩
      refine ⟨first, by simp, key, required, home, missing, ?_⟩
      rw [List.foldlM_cons, failed]
      rfl

end Decoding

namespace Outline

variable {outline : Outline} {entry : Table × List Key}

theorem mem_keys_iff (member : entry ∈ outline.tables) (home : key.table = entry.1) :
    key ∈ outline.keys ↔ key ∈ entry.2 := by
  constructor
  · intro given
    rcases List.mem_flatMap.1 given with ⟨other, otherMember, given⟩
    have same : other.1 = entry.1 := (outline.keysOwn other otherMember key given).symm.trans home
    rwa [← List.inj_on_of_nodup_map outline.tablesOnce otherMember member same]
  · intro given
    exact List.mem_flatMap.2 ⟨entry, member, given⟩

theorem table_mem_names (given : key ∈ outline.keys) : key.table ∈ outline.names := by
  rcases List.mem_flatMap.1 given with ⟨entry, member, given⟩
  rw [outline.keysOwn entry member key given]
  exact List.mem_map_of_mem member

theorem complete_of_not_lacks (none : ∀ key : Key, key.Required → ¬ outline.Lacks key)
    (member : entry ∈ outline.tables) : Complete entry := by
  intro part home
  have given : ∀ key : Key, key.Required → key.table = .root part → key ∈ entry.2 := by
    intro key required at_root
    by_contra missing
    have here : key.table = entry.1 := at_root.trans home.symm
    have opened : key.table ∈ outline.names := here ▸ List.mem_map_of_mem member
    exact none key required ⟨opened, fun given => missing ((mem_keys_iff member here).1 given)⟩
  exact ⟨given (.dir part) trivial rfl, given (.patterns part) trivial rfl⟩

theorem incomplete_of_lacks (required : key.Required) (lacks : outline.Lacks key) :
    ∃ entry ∈ outline.tables, ¬ Complete entry := by
  rcases List.mem_map.1 lacks.1 with ⟨entry, member, home⟩
  refine ⟨entry, member, fun complete => lacks.2 ?_⟩
  rw [mem_keys_iff member home.symm]
  rcases Key.required_iff.1 required with ⟨part, rfl | rfl⟩
  · exact (complete part home).1
  · exact (complete part home).2

theorem restored_eq_restore (none : ∀ key : Key, key.Required → ¬ outline.Lacks key)
    (settings : Settings) : outline.restored settings = restore settings default outline.keys := by
  have roots : ∀ part, .root part ∈ outline.names ↔ .dir part ∈ outline.keys := by
    intro part
    constructor
    · intro opened
      by_contra missing
      exact none (.dir part) trivial ⟨opened, missing⟩
    · exact table_mem_names
  simp only [restored, restore, roots]

theorem restored_of_all (all : ∀ key, key ∈ outline.keys) (settings : Settings) :
    outline.restored settings = settings := by
  have roots : ∀ part, .root part ∈ outline.names := fun part => table_mem_names (all (.dir part))
  simp only [restored, all, roots, if_true]

def value (outline : Outline) (settings : Settings) (report : String) : Value :=
  .table ((outline.document settings report).map fun table => (table.1, .table table.2))

theorem decode_value (outline : Outline) (settings : Settings) (report : String) :
    decode tomlDialect (outline.value settings report) =
      outline.tables.foldlM (setTable settings report) default := by
  change ((outline.document settings report).map _).foldlM _ default = _
  rw [document, List.foldlM_map, List.foldlM_map]
  rfl

theorem decode_complete (named : settings.outputPath = .ofString report)
    (none : ∀ key : Key, key.Required → ¬ outline.Lacks key) :
    decode tomlDialect (outline.value settings report) = .ok (outline.restored settings) := by
  rw [decode_value, restored_eq_restore none]
  apply foldlM_restores (fun _ => rfl) (restore_append settings)
  intro entry member sofar
  exact setTable_complete named (outline.keysOwn entry member)
    (complete_of_not_lacks none member) sofar

theorem decode_incomplete (named : settings.outputPath = .ofString report)
    (some : ∃ key : Key, key.Required ∧ outline.Lacks key) :
    ∃ key : Key, key.Required ∧ outline.Lacks key ∧
      decode tomlDialect (outline.value settings report) = .error (.missingField key.label) := by
  rcases some with ⟨key, required, lacks⟩
  rcases foldlM_incomplete named outline.keysOwn (incomplete_of_lacks required lacks) default
    with ⟨entry, member, key, required, home, missing, failed⟩
  have opened : key.table ∈ outline.names := home ▸ List.mem_map_of_mem member
  refine ⟨key, required, ⟨opened, ?_⟩, (decode_value _ _ _).trans failed⟩
  rwa [mem_keys_iff member home]

end Outline

end Settings

end CodeInventory
