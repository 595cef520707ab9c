import CodeInventory.Proofs.Glob.Notation
import CodeInventory.Settings.Validate

namespace CodeInventory

theorem RootSettings.compile_endings (dir : String) {suffixes : List String}
    (plain : ∀ suffix ∈ suffixes, ∀ c ∈ suffix.toList, Glob.Plain c) :
    RootSettings.compile ⟨dir, suffixes.map ("*" ++ ·)⟩ = .ok (suffixes.map Glob.ending) := by
  rw [compile, Glob.parseAll_endings plain]
  rfl

theorem RootSettings.compile_scripts (dir : String) :
    RootSettings.compile ⟨dir, ["*.ts"]⟩ = .ok [Glob.ending ".ts"] := by
  have plain : ∀ suffix ∈ [".ts"], ∀ c ∈ suffix.toList, Glob.Plain c := by simp [Glob.Plain]
  simpa using compile_endings dir plain

theorem RootSettings.compile_markups (dir : String) :
    RootSettings.compile ⟨dir, ["*.ts", "*.tsx"]⟩ =
      .ok [Glob.ending ".ts", Glob.ending ".tsx"] := by
  have plain : ∀ suffix ∈ [".ts", ".tsx"], ∀ c ∈ suffix.toList, Glob.Plain c := by
    simp [Glob.Plain]
  simpa using compile_endings dir plain

namespace Settings

variable {settings : Settings}

theorem validateRoot_ok_iff {part : Section} {root : RootSettings} :
    validateRoot part root = .ok () ↔
      Text.allBlank root.dir = false ∧ root.patterns ≠ [] ∧
        ∃ patterns, root.compile = .ok patterns := by
  unfold validateRoot
  by_cases blank : Text.allBlank root.dir = true
  · simp [blank]
  · by_cases none : root.patterns = []
    · simp [blank, none]
    · cases root.compile <;> simp [blank, none, Except.map]

theorem validate_ok_iff : settings.validate = .ok () ↔
    validateRoot .sources settings.sources = .ok () ∧
      validateRoot .benches settings.benches = .ok () ∧
      validateRoot .tests settings.tests = .ok () ∧ settings.outputPath.bytes ≠ [] := by
  unfold validate
  cases validateRoot .sources settings.sources with
  | error error => simp [Bind.bind, Except.bind]
  | ok =>
    cases validateRoot .benches settings.benches with
    | error error => simp [Bind.bind, Except.bind]
    | ok =>
      cases validateRoot .tests settings.tests with
      | error error => simp [Bind.bind, Except.bind]
      | ok =>
        by_cases empty : settings.outputPath.bytes = [] <;>
          simp [Bind.bind, Except.bind, empty, throw, throwThe, MonadExceptOf.throw, pure,
            Except.pure]

theorem validate_of_roots (sources : validateRoot .sources settings.sources = .ok ())
    (benches : validateRoot .benches settings.benches = .ok ())
    (tests : validateRoot .tests settings.tests = .ok ()) :
    settings.validate =
      if settings.outputPath.bytes = [] then .error (.settingsInvalid .emptyOutputPath)
      else .ok () := by
  unfold validate
  rw [sources, benches, tests]
  split <;> rfl

theorem default_valid : default.validate = .ok () := by
  have named : default.outputPath.bytes.isEmpty = false := by cbv
  refine validate_ok_iff.2 ⟨?_, ?_, ?_, by simpa using named⟩
  · exact validateRoot_ok_iff.2 ⟨by decide, by decide, _, RootSettings.compile_markups _⟩
  · exact validateRoot_ok_iff.2 ⟨by decide, by decide, _, RootSettings.compile_scripts _⟩
  · exact validateRoot_ok_iff.2 ⟨by decide, by decide, _, RootSettings.compile_markups _⟩

end Settings

end CodeInventory
