import CodeInventory.CommandLine.Run
import CodeInventory.Proofs.Inventory.Accounting
import CodeInventory.Proofs.Project.Build
import CodeInventory.Proofs.Settings.Validity

namespace CodeInventory

open CodeInventory.FileTree CodeInventory.Source

/-- Failures that come from the file system and not from settings, texts or paths of records. -/
inductive Error.Environmental : Error → Prop where
  | pathNotFound (path : Path) : Environmental (.pathNotFound path)
  | walk (error : WalkError) : Environmental (.walk error)
  | io (fault : Fault) : Environmental (.io fault)

variable {tree : FileTree} {projectRoot : Path} {settings : Settings}

theorem Scanner.scan_fails {α : Type} {scanner : Scanner} {extractor : Extractor α} {root : Path}
    {error : Error} (failed : (scanner.scan tree extractor root).result = .error error) :
    openRoot? tree root = none ∧ scanner.allowMissingRoot = false ∧ error = .pathNotFound root := by
  cases opened : openRoot? tree root with
  | none =>
    simp only [scan, opened] at failed
    split at failed
    · cases failed
    · rename_i refused
      cases failed
      exact ⟨rfl, by simpa using refused, rfl⟩
  | some place =>
    obtain ⟨location, entries⟩ := place
    obtain ⟨inventory, _, _, scanned⟩ := scan_of_opened scanner extractor opened
    rw [scanned] at failed
    cases failed

namespace Project

def PatternsCompile (settings : Settings) : Prop :=
  ∀ root ∈ [settings.sources, settings.benches, settings.tests],
    ∃ patterns, root.compile = .ok patterns

theorem scanRoot_fails {α : Type} {root : RootSettings} {extractor : Extractor α} {error : Error}
    (compiles : ∃ patterns, root.compile = .ok patterns)
    (failed : (scanRoot tree settings projectRoot root extractor).result = .error error) :
    error.Environmental := by
  obtain ⟨patterns, compiled⟩ := compiles
  rcases Traced.bind_fails failed with refused | ⟨_, _, scan⟩
  · rw [compiled] at refused
    cases refused
  · obtain ⟨_, _, rfl⟩ := Scanner.scan_fails scan
    exact .pathNotFound _

theorem build_fails {error : Error} (compile : PatternsCompile settings)
    (failed : (build tree projectRoot settings).result = .error error) : error.Environmental := by
  unfold build at failed
  split at failed
  · rcases Traced.bind_fails failed with missing | ⟨_, impossible, _⟩
    · cases missing
      exact .pathNotFound projectRoot
    · cases impossible
  · rcases Traced.bind_fails failed with first | ⟨_, _, failed⟩
    · exact scanRoot_fails (compile _ (by simp)) first
    · rcases Traced.bind_fails failed with second | ⟨_, _, failed⟩
      · exact scanRoot_fails (compile _ (by simp)) second
      · rcases Traced.bind_fails failed with third | ⟨_, _, done⟩
        · exact scanRoot_fails (compile _ (by simp)) third
        · cases done

end Project

theorem Settings.patternsCompile_of_validate (valid : settings.validate = .ok ()) :
    Project.PatternsCompile settings := by
  obtain ⟨sources, benches, tests, _⟩ := validate_ok_iff.1 valid
  simp only [Project.PatternsCompile, List.forall_mem_cons]
  exact ⟨(validateRoot_ok_iff.1 sources).2.2, (validateRoot_ok_iff.1 benches).2.2,
    (validateRoot_ok_iff.1 tests).2.2, by simp⟩

theorem prepare_fails {generatedOn : String} {error : Error}
    (compile : Project.PatternsCompile settings)
    (failed : (prepare tree projectRoot settings generatedOn).result = .error error) :
    error.Environmental := by
  rcases Traced.bind_fails failed with built | ⟨_, _, done⟩
  · exact Project.build_fails compile built
  · cases done

theorem generate_fails {generatedOn : String} {error : Error}
    (compile : Project.PatternsCompile settings)
    (failed : (generate tree projectRoot settings generatedOn).1.result = .error error) :
    error.Environmental := by
  unfold generate at failed
  cases prepared : (prepare tree projectRoot settings generatedOn).result with
  | error cause =>
    simp only [prepared, Except.error.injEq] at failed
    exact failed ▸ prepare_fails compile prepared
  | ok generated =>
    simp only [prepared] at failed
    cases written : (tree.writeWithParents generated.outputPath generated.report).1 with
    | error fault =>
      simp only [written] at failed
      cases failed
      exact .io fault
    | ok done =>
      simp only [written] at failed
      cases failed

namespace CommandLine

theorem loadSettings_valid {named : Option Path} {given : Override}
    (loaded : (loadSettings tree projectRoot named given).result = .ok settings) :
    settings.validate = .ok () := by
  have settled : ∀ base : Settings, (do
      Traced.ofExcept (base.override given).1
      Traced.ofExcept (base.override given).2.validate
      return (base.override given).2 : Traced Settings).result = .ok settings →
      settings.validate = .ok () := by
    intro base merged
    obtain ⟨_, _, validated⟩ := Traced.bind_result merged
    obtain ⟨⟨⟩, valid, done⟩ := Traced.bind_result validated
    cases done
    exact valid
  unfold loadSettings at loaded
  cases named with
  | some path =>
    obtain ⟨base, _, merged⟩ := Traced.bind_result loaded
    exact settled base merged
  | none =>
    obtain ⟨_, _, merged⟩ := Traced.bind_result loaded
    exact settled _ merged

theorem runSettled_ends (tree : FileTree) (today : String) (request : Request)
    (compile : Project.PatternsCompile settings) :
    (∃ generated, (runSettled tree today request settings).generated = some generated ∧
      (runSettled tree today request settings).failure = none) ∨
      ∃ error, (runSettled tree today request settings).failure = some error ∧
        error.Environmental := by
  unfold runSettled
  cases result : (generate tree request.projectRoot settings today).1.result with
  | error error =>
    refine .inr ⟨error, ?_, generate_fails compile result⟩
    simp only [result]
  | ok generated =>
    refine .inl ⟨generated, ?_, ?_⟩ <;> simp only [result]

theorem runRequest_fails {today : String} {request : Request} {error : Error}
    (loaded : (loadSettings tree request.projectRoot (request.config.map .ofString)
      request.override).result = .ok settings)
    (failed : (runRequest tree today request).failure = some error) : error.Environmental := by
  unfold runRequest at failed
  split at failed
  · cases failed
    exact .pathNotFound _
  · simp only [loaded] at failed
    have compile := settings.patternsCompile_of_validate (loadSettings_valid loaded)
    rcases runSettled_ends tree today request compile with ⟨_, _, none⟩ | ⟨cause, some, known⟩
    · rw [none] at failed
      cases failed
    · rw [some] at failed
      cases failed
      exact known

/-- Whatever settings file and options the settings come from. -/
theorem valid_settings_fail_environmentally :
    (∀ (tree : FileTree) (projectRoot : Path) (settings : Settings) (generatedOn : String),
      settings.validate = .ok () →
      (∃ generated, (generate tree projectRoot settings generatedOn).1.result = .ok generated) ∨
        ∃ error, (generate tree projectRoot settings generatedOn).1.result = .error error ∧
          error.Environmental) ∧
    ∀ (tree : FileTree) (today : String) (request : Request) (settings : Settings),
      (loadSettings tree request.projectRoot (request.config.map .ofString)
        request.override).result = .ok settings →
      ((∃ generated, (runSettled tree today request settings).generated = some generated ∧
          (runSettled tree today request settings).failure = none) ∨
        ∃ error, (runSettled tree today request settings).failure = some error ∧
          error.Environmental) ∧
      ∀ error, (runRequest tree today request).failure = some error → error.Environmental := by
  constructor
  · intro tree projectRoot settings generatedOn valid
    cases result : (generate tree projectRoot settings generatedOn).1.result with
    | ok generated => exact .inl ⟨generated, rfl⟩
    | error error =>
      exact .inr ⟨error, rfl, generate_fails (settings.patternsCompile_of_validate valid) result⟩
  · intro tree today request settings loaded
    have compile := settings.patternsCompile_of_validate (loadSettings_valid loaded)
    exact ⟨runSettled_ends tree today request compile, fun error => runRequest_fails loaded⟩

/-- A file stands where the sources should be. -/
def bareProject : FileTree where
  root := .directory [(Text.encode "src", .file [])]
  workingDirectory := []

def bareRequest : Request := ⟨".", none, none, none, none, false, true⟩

theorem bare_project_fails_environmentally :
    Settings.default.validate = .ok () ∧
      (∃ error, (generate bareProject (.ofString ".") Settings.default "").1.result = .error error ∧
        error.Environmental) ∧
      ∀ error, (runRequest bareProject "" bareRequest).failure = some error →
        error.Environmental := by
  obtain ⟨generating, running⟩ := valid_settings_fail_environmentally
  refine ⟨Settings.default_valid, ?_, ?_⟩
  · rcases generating bareProject (.ofString ".") Settings.default "" Settings.default_valid with
      ⟨generated, done⟩ | failed
    · have fails : (generate bareProject (.ofString ".") Settings.default
          "").1.result.isOk = false := by cbv
      rw [done] at fails
      cases fails
    · exact failed
  · have loaded : (loadSettings bareProject bareRequest.projectRoot none
        bareRequest.override).result = .ok Settings.default := by
      have absent : Settings.loadOrDefault bareProject
          (bareRequest.projectRoot.join Settings.fileName) = ([], Settings.default) := by
        have missing : bareProject.pathExists (bareRequest.projectRoot.join Settings.fileName) =
            false := by cbv
        simp [Settings.loadOrDefault, missing]
      have merged : Settings.default.override bareRequest.override =
          (.ok (), Settings.default) := rfl
      simp [loadSettings, absent, merged, Settings.default_valid, Traced.log, Traced.ofExcept]
    exact (running bareProject "" bareRequest Settings.default loaded).2

end CommandLine

end CodeInventory
