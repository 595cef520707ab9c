import CodeInventory.CommandLine.Run
import CodeInventory.Proofs.FileTree.Reading
import CodeInventory.Proofs.Settings.History

namespace CodeInventory

theorem mapError_eq_ok_iff {α ε δ : Type} {f : ε → δ} {first : Except ε α} {a : α} :
    first.mapError f = .ok a ↔ first = .ok a := by
  cases first <;> simp [Except.mapError]

theorem bind_eq_ok_iff {α β ε : Type} {first : Except ε α} {next : α → Except ε β} {b : β} :
    (first >>= next) = .ok b ↔ ∃ a, first = .ok a ∧ next a = .ok b := by
  cases first <;> simp [Bind.bind, Except.bind]

def Format.Named (name : String) : Format → Prop
  | .markdown => Text.lower name = "markdown" ∨ Text.lower name = "md"
  | .json => Text.lower name = "json"

theorem Format.ofName_eq_ok_iff {name : String} {format : Format} :
    ofName name = .ok format ↔ format.Named name := by
  unfold ofName
  split <;> cases format <;> simp_all [Named]

theorem Format.ofName_eq_error_iff {name : String} {error : Error} :
    ofName name = .error error ↔
      (∀ format : Format, ¬ format.Named name) ∧
        error = .settingsInvalid (.unknownFormat (Text.lower name)) := by
  cases parsed : ofName name with
  | ok format =>
    have named := ofName_eq_ok_iff.1 parsed
    simp only [reduceCtorEq, false_iff, not_and]
    intro unknown
    exact absurd named (unknown format)
  | error cause =>
    have unknown : ∀ format : Format, ¬ format.Named name := by
      intro format named
      rw [ofName_eq_ok_iff.2 named] at parsed
      cases parsed
    have told : cause = .settingsInvalid (.unknownFormat (Text.lower name)) := by
      unfold ofName at parsed
      split at parsed <;> cases parsed
      rfl
    simp [unknown, told, eq_comm]

inductive Override.FailsWith (given : Override) : Error → Prop
  | unknownFormat {name : String} (asked : given.format = some name)
    (unknown : ∀ format : Format, ¬ format.Named name) :
    given.FailsWith (.settingsInvalid (.unknownFormat (Text.lower name)))
  | emptyOutput (known : ∀ name, given.format = some name → ∃ format : Format, format.Named name)
    (empty : given.output = some ⟨[]⟩) : given.FailsWith (.settingsInvalid .emptyOutputPath)

namespace Settings

variable {tree : FileTree} {path projectRoot : Path} {settings base : Settings}
  {given : Override}

/-- The file is there, is text and a document, and what the document says is valid as a whole. -/
def Provides (tree : FileTree) (path : Path) (settings : Settings) : Prop :=
  ∃ document value, tree.readText path = .ok document ∧ Toml.parse document = some value ∧
    decode tomlDialect value = .ok settings ∧ settings.validate = .ok ()

theorem parse_eq_ok_iff {document : String} :
    parse document = .ok settings ↔
      ∃ value, Toml.parse document = some value ∧ decode tomlDialect value = .ok settings := by
  unfold parse
  cases Toml.parse document with
  | none => simp
  | some value => simp [mapError_eq_ok_iff]

theorem load_eq_ok_iff : load tree path = .ok settings ↔ Provides tree path settings := by
  unfold load
  simp only [bind_eq_ok_iff, mapError_eq_ok_iff, parse_eq_ok_iff]
  constructor
  · intro loaded
    rcases loaded with ⟨document, reading, found, ⟨value, parsed, decoded⟩, ⟨⟩, valid, done⟩
    cases done
    exact ⟨document, value, reading, parsed, decoded, valid⟩
  · intro provided
    rcases provided with ⟨document, value, reading, parsed, decoded, valid⟩
    exact ⟨document, reading, settings, ⟨value, parsed, decoded⟩, (), valid, rfl⟩

/-- The settings that a run starts from, and the warnings there are about them: those of the file
that is named, or of the one in the project, or the defaults. -/
inductive StartsFrom (tree : FileTree) (projectRoot : Path) :
    Option Path → List Event → Settings → Prop
  | named {path : Path} {settings : Settings} (provided : Provides tree path settings) :
    StartsFrom tree projectRoot (some path) [] settings
  | found {settings : Settings} (present : tree.pathExists (projectRoot.join fileName) = true)
    (provided : Provides tree (projectRoot.join fileName) settings) :
    StartsFrom tree projectRoot none [] settings
  | missing (absent : tree.pathExists (projectRoot.join fileName) = false) :
    StartsFrom tree projectRoot none [] default
  | ignored (present : tree.pathExists (projectRoot.join fileName) = true)
    (unusable : ∀ settings, ¬ Provides tree (projectRoot.join fileName) settings) :
    StartsFrom tree projectRoot none [.settingsIgnored (projectRoot.join fileName)] default

def Chosen (base : Settings) (given : Override) (format : Format) : Prop :=
  match given.format with
  | some name => format.Named name
  | none => format = base.outputFormat

/-- Settings with what the command line gives in place of their own, and otherwise the same. -/
structure Overrides (base : Settings) (given : Override) (settings : Settings) : Prop where
  sources : settings.sources = base.sources
  benches : settings.benches = base.benches
  tests : settings.tests = base.tests
  followLinks : settings.followLinks = base.followLinks
  outputPath : settings.outputPath = given.output.getD base.outputPath
  outputFormat : Chosen base given settings.outputFormat
  projectName : settings.projectName = given.title.getD base.projectName
  allowMissingRoots :
    settings.allowMissingRoots = (base.allowMissingRoots || given.allowMissingRoots)

theorem startsFrom_loadOrDefault (tree : FileTree) (projectRoot : Path) :
    StartsFrom tree projectRoot none (loadOrDefault tree (projectRoot.join fileName)).1
      (loadOrDefault tree (projectRoot.join fileName)).2 := by
  unfold loadOrDefault
  split
  · rename_i present
    cases loaded : load tree (projectRoot.join fileName) with
    | ok settings => exact .found present (load_eq_ok_iff.1 loaded)
    | error error =>
      apply StartsFrom.ignored present
      intro settings provided
      rw [load_eq_ok_iff.2 provided] at loaded
      cases loaded
  · rename_i absent
    exact .missing (by simpa using absent)

theorem startsFrom_unnamed_iff {events : List Event} :
    StartsFrom tree projectRoot none events base ↔
      loadOrDefault tree (projectRoot.join fileName) = (events, base) := by
  constructor
  · intro starts
    cases starts with
    | found present provided => simp [loadOrDefault, present, load_eq_ok_iff.2 provided]
    | missing absent => simp [loadOrDefault, absent]
    | ignored present unusable =>
      cases loaded : load tree (projectRoot.join fileName) with
      | ok settings => exact absurd (load_eq_ok_iff.1 loaded) (unusable settings)
      | error error => simp [loadOrDefault, present, loaded]
  · intro loaded
    have starts := startsFrom_loadOrDefault tree projectRoot
    rw [loaded] at starts
    exact starts

theorem startsFrom_named_iff :
    StartsFrom tree projectRoot (some path) [] base ↔ load tree path = .ok base := by
  rw [load_eq_ok_iff]
  constructor
  · intro starts
    cases starts with
    | named provided => exact provided
  · exact .named

theorem StartsFrom.valid {named : Option Path} {events : List Event}
    (starts : StartsFrom tree projectRoot named events base) : base.validate = .ok () := by
  cases starts with
  | named provided => exact load_valid (load_eq_ok_iff.2 provided)
  | found _ provided => exact load_valid (load_eq_ok_iff.2 provided)
  | missing _ => exact default_valid
  | ignored _ _ => exact default_valid

section Settling

variable {format : Format} {error : Error}

def overridden (base : Settings) (given : Override) (format : Format) : Settings :=
  { base with
    projectName := given.title.getD base.projectName
    allowMissingRoots := base.allowMissingRoots || given.allowMissingRoots
    outputPath := given.output.getD base.outputPath
    outputFormat := format }

theorem overrides_overridden (chosen : Chosen base given format) :
    Overrides base given (overridden base given format) :=
  ⟨rfl, rfl, rfl, rfl, rfl, chosen, rfl, rfl⟩

theorem Overrides.eq_overridden (overrides : Overrides base given settings) :
    settings = overridden base given settings.outputFormat := by
  cases settings
  rcases overrides with ⟨rfl, rfl, rfl, rfl, rfl, _, rfl, rfl⟩
  rfl

theorem override_of_chosen (chosen : Chosen base given format) :
    base.override given = (.ok (), overridden base given format) := by
  unfold Chosen at chosen
  unfold override
  split at chosen
  · rename_i name asked
    have parsed := Format.ofName_eq_ok_iff.2 chosen
    simp [asked, parsed, Option.mapM, withOutput, overridden]
  · rename_i own
    simp [own, chosen, Option.mapM, pure, Except.pure, withOutput, overridden]

theorem exists_chosen_iff : (∃ format, Chosen base given format) ↔
    ∀ name, given.format = some name → ∃ format : Format, format.Named name := by
  unfold Chosen
  cases given.format <;> simp

theorem unknown_of_not_chosen (none : ¬ ∃ format, Chosen base given format) :
    ∃ name, given.format = some name ∧ ∀ format : Format, ¬ format.Named name := by
  rw [exists_chosen_iff] at none
  push Not at none
  exact none

theorem override_of_unknown {name : String} (asked : given.format = some name)
    (unknown : ∀ format : Format, ¬ format.Named name) :
    (base.override given).1 = .error (.settingsInvalid (.unknownFormat (Text.lower name))) := by
  have parsed := Format.ofName_eq_error_iff.2 ⟨unknown, rfl⟩
  unfold override
  simp [asked, parsed, Option.mapM]

def settle (base : Settings) (given : Override) : Except Error Settings := do
  (base.override given).1
  (base.override given).2.validate
  return (base.override given).2

theorem settle_of_chosen (chosen : Chosen base given format) :
    settle base given =
      (overridden base given format).validate.map fun _ => overridden base given format := by
  unfold settle
  rw [override_of_chosen chosen]
  rfl

theorem settle_of_unknown {name : String} (asked : given.format = some name)
    (unknown : ∀ format : Format, ¬ format.Named name) :
    settle base given = .error (.settingsInvalid (.unknownFormat (Text.lower name))) := by
  unfold settle
  rw [override_of_unknown asked unknown]
  rfl

theorem validate_overridden (valid : base.validate = .ok ()) :
    (overridden base given format).validate =
      if given.output = some ⟨[]⟩ then .error (.settingsInvalid .emptyOutputPath)
      else .ok () := by
  rcases validate_ok_iff.1 valid with ⟨sources, benches, tests, filled⟩
  have checked : (overridden base given format).validate =
      if (given.output.getD base.outputPath).bytes = [] then
        .error (.settingsInvalid .emptyOutputPath)
      else .ok () := validate_of_roots sources benches tests
  have empty : (given.output.getD base.outputPath).bytes = [] ↔ given.output = some ⟨[]⟩ := by
    cases given.output with
    | none => simpa using filled
    | some path =>
      cases path
      simp
  simp only [checked, empty]

theorem settle_eq_ok_iff : settle base given = .ok settings ↔
    Overrides base given settings ∧ settings.validate = .ok () := by
  constructor
  · intro settled
    by_cases chosen : ∃ format, Chosen base given format
    · rcases chosen with ⟨format, chosen⟩
      rw [settle_of_chosen chosen] at settled
      cases valid : (overridden base given format).validate with
      | error error =>
        rw [valid] at settled
        cases settled
      | ok =>
        rw [valid] at settled
        cases settled
        exact ⟨overrides_overridden chosen, valid⟩
    · rcases unknown_of_not_chosen chosen with ⟨name, asked, unknown⟩
      rw [settle_of_unknown asked unknown] at settled
      cases settled
  · intro both
    rcases both with ⟨overrides, valid⟩
    rw [settle_of_chosen overrides.outputFormat, ← overrides.eq_overridden, valid]
    rfl

theorem failsWith_of_settle (valid : base.validate = .ok ())
    (failed : settle base given = .error error) : given.FailsWith error := by
  by_cases chosen : ∃ format, Chosen base given format
  · have known := exists_chosen_iff.1 chosen
    rcases chosen with ⟨format, chosen⟩
    rw [settle_of_chosen chosen, validate_overridden valid] at failed
    split at failed
    · rename_i empty
      cases failed
      exact .emptyOutput known empty
    · cases failed
  · rcases unknown_of_not_chosen chosen with ⟨name, asked, unknown⟩
    rw [settle_of_unknown asked unknown] at failed
    cases failed
    exact .unknownFormat asked unknown

theorem settle_eq_error_iff (valid : base.validate = .ok ()) :
    settle base given = .error error ↔ given.FailsWith error := by
  constructor
  · exact failsWith_of_settle valid
  · intro fails
    cases fails with
    | unknownFormat asked unknown => exact settle_of_unknown asked unknown
    | emptyOutput known empty =>
      rcases exists_chosen_iff.2 known with ⟨format, chosen⟩
      rw [settle_of_chosen chosen, validate_overridden valid, if_pos empty]
      rfl

end Settling

end Settings

namespace CommandLine

open Settings

theorem traced_settle (base : Settings) (given : Override) :
    (do
      Traced.ofExcept (base.override given).1
      Traced.ofExcept (base.override given).2.validate
      return (base.override given).2 : Traced Settings) = ⟨[], settle base given⟩ := by
  unfold settle
  cases (base.override given).1 with
  | error error => rfl
  | ok =>
    cases (base.override given).2.validate with
    | error error => rfl
    | ok => rfl

theorem loadSettings_unnamed (tree : FileTree) (projectRoot : Path) (given : Override) :
    loadSettings tree projectRoot none given =
      ⟨(loadOrDefault tree (projectRoot.join fileName)).1,
        settle (loadOrDefault tree (projectRoot.join fileName)).2 given⟩ := by
  simp only [loadSettings, traced_settle]
  simp [Traced.log]

theorem loadSettings_named (tree : FileTree) (projectRoot path : Path) (given : Override) :
    loadSettings tree projectRoot (some path) given =
      ⟨[], load tree path >>= (settle · given)⟩ := by
  simp only [loadSettings, traced_settle]
  cases load tree path with
  | error error => rfl
  | ok base => rfl

/-- A run has settings exactly if those it starts from can be settled. -/
theorem loadSettings_eq_ok_iff {tree : FileTree} {projectRoot : Path} {named : Option Path}
    {given : Override} {settings : Settings} :
    (loadSettings tree projectRoot named given).result = .ok settings ↔
      ∃ base, StartsFrom tree projectRoot named (loadSettings tree projectRoot named given).events
        base ∧ settle base given = .ok settings := by
  cases named with
  | some path =>
    simp only [loadSettings_named, bind_eq_ok_iff, startsFrom_named_iff]
  | none =>
    simp only [loadSettings_unnamed, startsFrom_unnamed_iff, Prod.ext_iff, true_and,
      exists_eq_left']

theorem settings_take_effect (tree : FileTree) (projectRoot : Path) (named : Option Path)
    (given : Override) :
    let loaded := loadSettings tree projectRoot named given
    (∀ settings, loaded.result = .ok settings ↔
      ∃ base, StartsFrom tree projectRoot named loaded.events base ∧
        Overrides base given settings ∧ settings.validate = .ok ()) ∧
    (named = none →
      (∃ base, StartsFrom tree projectRoot none loaded.events base) ∧
      ∀ error, loaded.result = .error error ↔ given.FailsWith error) := by
  intro loaded
  constructor
  · intro settings
    simp only [← settle_eq_ok_iff]
    exact loadSettings_eq_ok_iff
  · intro unnamed
    subst unnamed
    have starts := startsFrom_loadOrDefault tree projectRoot
    have loads : loaded = _ := loadSettings_unnamed tree projectRoot given
    rw [loads]
    constructor
    · exact ⟨_, starts⟩
    · intro error
      exact settle_eq_error_iff starts.valid

def spoiledText : String :=
  "[project]\nname = \"Kept\"\n\n[sources]\ndir = \" \"\npatterns = [\"*\"]\n"

/-- A project whose settings file has one directory left blank. -/
def spoiledProject : FileTree where
  root := .directory [(Text.encode "inventory.toml", .file (Text.encode spoiledText))]
  workingDirectory := []

def spoiledPath : Path := Path.join (.ofString ".") fileName

theorem spoiledProject_provides_nothing (settings : Settings) :
    ¬ Provides spoiledProject spoiledPath settings := by
  have bytes : spoiledProject.readBytes spoiledPath = .ok (Text.encode spoiledText) := by cbv
  have reading := FileTree.readText_eq_ok_iff.2 bytes
  have parsing : Toml.parse spoiledText =
      some (.table [("project", .table [("name", .string "Kept")]),
        ("sources", .table [("dir", .string " "), ("patterns", .array [.string "*"])])]) := by
    cbv
  intro provided
  rcases provided with ⟨document, value, read, parsed, decoded, valid⟩
  cases reading.symm.trans read
  cases parsing.symm.trans parsed
  cases decoded
  cases valid

theorem spoiled_file_is_ignored :
    let given : Override := { format := some "JSON", title := some "Demo" }
    let loaded := loadSettings spoiledProject (.ofString ".") none given
    loaded.events = [.settingsIgnored spoiledPath] ∧
      loaded.result = .ok { projectName := "Demo", outputFormat := .json } := by
  intro given loaded
  have present : spoiledProject.pathExists spoiledPath = true := by cbv
  rcases settings_take_effect spoiledProject (.ofString ".") none given with ⟨settled, unnamed⟩
  have warned : loaded.events = [.settingsIgnored spoiledPath] := by
    rcases (unnamed rfl).1 with ⟨base, starts⟩
    generalize (loadSettings spoiledProject (.ofString ".") none given).events = events at starts
    cases starts with
    | found _ provided => exact absurd provided (spoiledProject_provides_nothing base)
    | missing absent => cases present.symm.trans absent
    | ignored _ _ => rfl
  have chosen : Chosen Settings.default given .json := by
    have lowered : Text.lower "JSON" = "json" := by cbv
    exact lowered
  have valid : (overridden Settings.default given .json).validate = .ok () := by
    rw [validate_overridden default_valid, if_neg (by simp [given])]
  refine ⟨warned, (settled _).2 ⟨Settings.default, ?_, overrides_overridden chosen, valid⟩⟩
  exact warned.symm ▸ .ignored present spoiledProject_provides_nothing

end CommandLine

end CodeInventory
