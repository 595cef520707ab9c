import CodeInventory.Proofs.Settings.Effective
import CodeInventory.Proofs.Settings.Outlines
import CodeInventory.Proofs.Toml.Assembly
import CodeInventory.Proofs.Toml.Reading

namespace CodeInventory.Settings

open CodeInventory.Document

variable {settings : Settings} {report : String} {outline : Outline} {document : String}
  {tree : FileTree} {path : Path}

namespace Outline

/-- The document has the tables and keys of the outline, with the settings' own values. -/
def Written (outline : Outline) (settings : Settings) (report document : String) : Prop :=
  Toml.DocumentText ((outline.document settings report).flatMap Toml.tableStatements)
    document.toList

theorem labels_distinct (outline : Outline) (settings : Settings) (report : String) :
    ((outline.document settings report).map Prod.fst).Nodup := by
  have distinct := outline.tablesOnce.map Table.label_injective
  simpa [document, Function.comp_def] using distinct

theorem entries_distinct {table : Toml.NamedTable}
    (member : table ∈ outline.document settings report) : (table.2.map Prod.fst).Nodup := by
  rcases List.mem_map.1 member with ⟨entry, listed, rfl⟩
  have distinct : (entry.2.map Key.label).Nodup := by
    apply (outline.keysOnce entry listed).map_on
    intro key given other otherGiven same
    have home := outline.keysOwn entry listed
    exact Key.eq_of_label ((home key given).trans (home other otherGiven).symm) same
  simpa [entries, Function.comp_def] using distinct

theorem parse_written (written : outline.Written settings report document) :
    Toml.parse document = some (outline.value settings report) := by
  have parsed := Toml.parse_document written
  rw [String.ofList_toList] at parsed
  rw [parsed, Toml.assemble_tables (outline.labels_distinct settings report)
    fun _ member => entries_distinct member]
  rfl

section Writing

theorem bare_table (table : Table) : Toml.Bare table.label.toList := by
  rcases table with _ | ⟨_ | _ | _⟩ | _ | _
  all_goals simp [Toml.Bare, Table.label, Section.name, Toml.isBareKey]

theorem bare_key (key : Key) : Toml.Bare key.label.toList := by
  cases key
  all_goals simp [Toml.Bare, Key.label, Toml.isBareKey]

theorem headerText (table : Table) :
    Toml.StatementText (.header [] table.label) ('[' :: table.label.toList ++ [] ++ [']']) := by
  have holds := Toml.StatementText.header Toml.blank_nil (bare_table table) Toml.blank_nil
  rwa [String.ofList_toList] at holds

theorem entryText (key : Key) {value : Value} {written : List Char}
    (reads : Toml.ValueText value written) :
    Toml.StatementText (.keyValue [] key.label value)
      (key.label.toList ++ [' '] ++ '=' :: [' '] ++ written) := by
  have space : Toml.Blank [' '] := by simp [Toml.Blank]
  have holds := Toml.StatementText.keyValue (bare_key key) space space reads
  rwa [String.ofList_toList] at holds

theorem exists_valueText (settings : Settings) (report : String) (key : Key) :
    ∃ written, Toml.ValueText (key.value settings report) written := by
  have string (text : String) : ∃ written, Toml.ValueText (.string text) written := by
    rcases Toml.exists_stringText text with ⟨written, reads⟩
    exact ⟨written, .string reads⟩
  have boolean (value : Bool) : ∃ written, Toml.ValueText (.boolean value) written := by
    cases value
    · exact ⟨_, .no⟩
    · exact ⟨_, .yes⟩
  cases key with
  | name => exact string _
  | dir part => exact string _
  | patterns part =>
    rcases Toml.exists_listText (settings.rootOf part).patterns with ⟨written, reads⟩
    exact ⟨written, .strings reads⟩
  | allowMissingRoots => exact boolean _
  | followLinks => exact boolean _
  | path => exact string _
  | format => exact string _

theorem exists_written (outline : Outline) (settings : Settings) (report : String) :
    ∃ document, outline.Written settings report document := by
  have each : ∀ statement ∈ (outline.document settings report).flatMap Toml.tableStatements,
      ∃ written, Toml.StatementText statement written := by
    intro statement member
    rcases List.mem_flatMap.1 member with ⟨table, listed, member⟩
    rcases List.mem_map.1 listed with ⟨entry, _, rfl⟩
    rcases List.mem_cons.1 member with rfl | member
    · exact ⟨_, headerText entry.1⟩
    · rcases List.mem_map.1 member with ⟨_, given, rfl⟩
      rcases List.mem_map.1 given with ⟨key, _, rfl⟩
      rcases exists_valueText settings report key with ⟨written, reads⟩
      exact ⟨_, entryText key reads⟩
  rcases Toml.exists_documentText each with ⟨text, holds⟩
  refine ⟨String.ofList text, ?_⟩
  rw [Written, String.toList_ofList]
  exact holds

end Writing

end Outline

theorem restored_valid (valid : settings.validate = .ok ()) (outline : Outline) :
    (outline.restored settings).validate = .ok () := by
  rcases validate_ok_iff.1 valid with ⟨sources, benches, tests, filled⟩
  rcases validate_ok_iff.1 default_valid with
    ⟨defaultSources, defaultBenches, defaultTests, defaultFilled⟩
  -- each part that is checked is one of the settings or one of the defaults
  refine validate_ok_iff.2 ⟨?_, ?_, ?_, ?_⟩
  all_goals
    simp only [Outline.restored]
    split <;> assumption

theorem load_complete (valid : settings.validate = .ok ())
    (named : settings.outputPath = .ofString report)
    (written : outline.Written settings report document)
    (stored : tree.readBytes path = .ok (Text.encode document))
    (none : ∀ key : Key, key.Required → ¬ outline.Lacks key) :
    load tree path = .ok (outline.restored settings) :=
  load_eq_ok_iff.2 ⟨document, _, FileTree.readText_eq_ok_iff.2 stored,
    Outline.parse_written written, Outline.decode_complete named none,
    restored_valid valid outline⟩

theorem load_incomplete (named : settings.outputPath = .ofString report)
    (written : outline.Written settings report document)
    (stored : tree.readBytes path = .ok (Text.encode document))
    (some : ∃ key : Key, key.Required ∧ outline.Lacks key) :
    ∃ key : Key, key.Required ∧ outline.Lacks key ∧
      load tree path = .error (.settingsData (.missingField key.label)) := by
  rcases Outline.decode_incomplete named some with ⟨key, required, lacks, failed⟩
  refine ⟨key, required, lacks, ?_⟩
  unfold load parse
  rw [FileTree.readText_eq_ok_iff.2 stored, Except.mapError]
  simp only [Bind.bind, Except.bind, Outline.parse_written written, failed]
  rfl

theorem written_settings_load_back {settings : Settings} {report : String}
    (valid : settings.validate = .ok ()) (named : settings.outputPath = .ofString report)
    (outline : Outline) :
    (∃ document, outline.Written settings report document) ∧
    ∀ (document : String) (tree : FileTree) (path : Path),
      outline.Written settings report document →
      tree.readBytes path = .ok (Text.encode document) →
      ((∀ key, key ∈ outline.keys) → load tree path = .ok settings) ∧
      ((∀ key : Key, key.Required → ¬ outline.Lacks key) →
        load tree path = .ok (outline.restored settings)) ∧
      ((∃ key : Key, key.Required ∧ outline.Lacks key) →
        ∃ key : Key, key.Required ∧ outline.Lacks key ∧
          load tree path = .error (.settingsData (.missingField key.label))) := by
  refine ⟨outline.exists_written settings report, ?_⟩
  intro document tree path written stored
  have complete := load_complete valid named written stored
  refine ⟨?_, complete, load_incomplete named written stored⟩
  intro all
  have loaded := complete fun key _ lacks => lacks.2 (all key)
  rwa [Outline.restored_of_all all] at loaded

section Sparse

open Toml Outline

/-- Settings of which a document gives three tables. -/
def sparseSettings : Settings where
  projectName := "Ü \"x\"\n"
  tests := ⟨"spec", ["*.ts", "*"]⟩
  followLinks := true
  outputFormat := .json

def sparseOutline : Outline where
  tables := [(.output, [.format]), (.root .tests, [.patterns .tests, .dir .tests]),
    (.project, [.name])]
  tablesOnce := by decide
  keysOnce := by decide
  keysOwn := by decide

def sparseText : String :=
  "# kept\n[output]\nformat = \"json\"\n\n[tests]\npatterns = [\"*.ts\",\n  \"*\"]\n" ++
    "dir = \"spec\"\n[project]\nname = \"Ü \\\"x\\\"\\u000A\"\n"

def sparseProject : FileTree where
  root := .directory [(Text.encode "inventory.toml", .file (Text.encode sparseText))]
  workingDirectory := []

theorem sparseName_text :
    StringText sparseSettings.projectName
      ['"', 'Ü', ' ', '\\', '"', 'x', '\\', '"', '\\', 'u', '0', '0', '0', 'A', '"'] := by
  have plain (c : Char) (plain : Plain c ∧ c ≠ '"' ∧ c ≠ '\\') : CharText c [c] :=
    .itself plain.1 plain.2.1 plain.2.2
  have quote : CharText '"' ['\\', '"'] := .short (by decide)
  have digits : List.Forall₂ HexDigit [0, 0, 0, 10] ['0', '0', '0', 'A'] :=
    .cons (.inl rfl) (.cons (.inl rfl) (.cons (.inl rfl) (.cons (.inr rfl) .nil)))
  have feed : CharText '\n' ['\\', 'u', '0', '0', '0', 'A'] :=
    .numbered (by decide) digits (by decide)
  have reads : List.Forall₂ CharText sparseSettings.projectName.toList _ :=
    .cons (plain 'Ü' (by decide)) <| .cons (plain ' ' (by decide)) <| .cons quote <|
    .cons (plain 'x' (by decide)) <| .cons quote <| .cons feed .nil
  exact .quoted reads

theorem sparseText_written : sparseOutline.Written sparseSettings "inventory.md" sparseText := by
  have line {statement : Statement} {written : List Char}
      (holds : StatementText statement written) : LineText (some statement) ([] ++ written ++ []) :=
    .statement blank_nil holds (.blanks blank_nil)
  have comment : LineText none ([] ++ '#' :: " kept".toList) :=
    .empty (.comment blank_nil (by simp [Plain]))
  have empty : LineText none [] := .empty (.blanks blank_nil)
  have format : StringText "json" _ := stringText_plain (by simp [Plain])
  have scripts : StringText "*.ts" _ := stringText_plain (by simp [Plain])
  have others : StringText "*" _ := stringText_plain (by simp [Plain])
  have dir : StringText "spec" _ := stringText_plain (by simp [Plain])
  have indent : Gap ([] ++ ['\n'] ++ [' ', ' ']) :=
    .line (.blanks blank_nil) .feed (.blanks (by simp [Blank]))
  have patterns := ListText.items (.blanks blank_nil) scripts
    (.item (.blanks blank_nil) indent others (.close (.blanks blank_nil)))
  have holds := DocumentText.line comment .feed <|
    .line (line (headerText .output)) .feed <|
    .line (line (entryText .format (.string format))) .feed <|
    .line empty .feed <|
    .line (line (headerText (.root .tests))) .feed <|
    .line (line (entryText (.patterns .tests) (.strings patterns))) .feed <|
    .line (line (entryText (.dir .tests) (.string dir))) .feed <|
    .line (line (headerText .project)) .feed <|
    .line (line (entryText .name (.string sparseName_text))) .feed <|
    .last empty
  exact holds

theorem sparseOutline_complete (key : Key) (required : key.Required) :
    ¬ sparseOutline.Lacks key := by
  have roots (part : Section) :
      ¬ sparseOutline.Lacks (.dir part) ∧ ¬ sparseOutline.Lacks (.patterns part) := by
    unfold Lacks
    cases part <;> decide
  rcases Key.required_iff.1 required with ⟨part, rfl | rfl⟩
  · exact (roots part).1
  · exact (roots part).2

theorem sparseSettings_valid : sparseSettings.validate = .ok () := by
  rcases validate_ok_iff.1 default_valid with ⟨sources, benches, _, filled⟩
  have plain : ∀ suffix ∈ [".ts", ""], ∀ c ∈ suffix.toList, Glob.Plain c := by simp [Glob.Plain]
  have compiled : RootSettings.compile ⟨"spec", ["*.ts", "*"]⟩ = _ :=
    RootSettings.compile_endings "spec" plain
  have tests : validateRoot .tests ⟨"spec", ["*.ts", "*"]⟩ = .ok () :=
    validateRoot_ok_iff.2 ⟨by decide, by decide, _, compiled⟩
  exact validate_ok_iff.2 ⟨sources, benches, tests, filled⟩

theorem sparse_settings_load_back :
    sparseSettings.validate = .ok () ∧
      sparseOutline.Written sparseSettings "inventory.md" sparseText ∧
      load sparseProject fileName = .ok {
        projectName := "Ü \"x\"\n"
        tests := ⟨"spec", ["*.ts", "*"]⟩
        outputFormat := .json } := by
  have stored : sparseProject.readBytes fileName = .ok (Text.encode sparseText) := by cbv
  rcases written_settings_load_back sparseSettings_valid rfl sparseOutline with ⟨_, loads⟩
  rcases loads sparseText sparseProject fileName sparseText_written stored with ⟨_, complete, _⟩
  exact ⟨sparseSettings_valid, sparseText_written, complete sparseOutline_complete⟩

end Sparse

end CodeInventory.Settings
