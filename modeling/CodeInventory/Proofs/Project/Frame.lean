import Mathlib
import CodeInventory.Proofs.FileTree.Making
import CodeInventory.Proofs.Project.Build

namespace CodeInventory

open CodeInventory.FileTree

variable {tree : FileTree} {projectRoot : Path} {settings : Settings}

def Settings.reportOf (settings : Settings) (generatedOn : String) (project : Project) : String :=
  project.render settings.outputFormat ⟨settings.title, generatedOn⟩

theorem prepare_of_build (generatedOn : String) {project : Project}
    (built : (Project.build tree projectRoot settings).result = .ok project) :
    (prepare tree projectRoot settings generatedOn).result =
      .ok ⟨project, settings.reportPath projectRoot, settings.reportOf generatedOn project⟩ := by
  unfold prepare
  generalize Project.build tree projectRoot settings = traced at built
  obtain ⟨events, result⟩ := traced
  cases built
  rfl

theorem generate_of_failed_build (generatedOn : String) {error : Error}
    (failed : (Project.build tree projectRoot settings).result = .error error) :
    (generate tree projectRoot settings generatedOn).1.result = .error error ∧
      (generate tree projectRoot settings generatedOn).2 = tree := by
  have prepared : (prepare tree projectRoot settings generatedOn).result = .error error := by
    unfold prepare
    generalize Project.build tree projectRoot settings = traced at failed
    obtain ⟨events, result⟩ := traced
    cases failed
    rfl
  simp only [generate, prepared, and_self]

theorem generate_of_build (generatedOn : String) {project : Project}
    (built : (Project.build tree projectRoot settings).result = .ok project) :
    let path := settings.reportPath projectRoot
    let report := settings.reportOf generatedOn project
    let written := tree.writeWithParents path report
    (generate tree projectRoot settings generatedOn).1.result =
        (written.1.mapError .io).map (fun _ => ⟨project, path, report⟩) ∧
      (generate tree projectRoot settings generatedOn).2 = written.2 := by
  simp only [generate, prepare_of_build generatedOn built, and_self]

theorem generate_cases (tree : AnchoredTree) (generatedOn : String) {project : Project}
    (built : (Project.build tree projectRoot settings).result = .ok project) :
    let path := settings.reportPath projectRoot
    let report := settings.reportOf generatedOn project
    ∃ made between, Made tree made between ∧ (∀ location ∈ made, between.OnTheWayTo path location) ∧
      ((∃ fault, (generate tree projectRoot settings generatedOn).1.result = .error (.io fault) ∧
          (generate tree projectRoot settings generatedOn).2 = between) ∨
        ∃ directory name, Written tree path (Text.encode report) made between directory name ∧
          (generate tree projectRoot settings generatedOn).1.result = .ok ⟨project, path, report⟩ ∧
          (generate tree projectRoot settings generatedOn).2 =
            between.put (directory ++ [name]) (.file (Text.encode report))) := by
  intro path report
  obtain ⟨made, between, steps, onTheWay, outcome⟩ := writeWithParents_cases tree path report
  refine ⟨made, between, steps, onTheWay, ?_⟩
  obtain ⟨result, after⟩ := generate_of_build generatedOn built
  rw [result, after]
  rcases outcome with ⟨fault, failed⟩ | ⟨directory, name, written, done⟩
  · rw [failed]
    exact .inl ⟨fault, rfl, rfl⟩
  · rw [done]
    exact .inr ⟨directory, name, written, rfl, rfl⟩

/-- The tree has new directories on the way to `path` at the locations `made`, and differs nowhere
else, except perhaps at `exempt`. -/
structure Framed (before : FileTree) (path : Path) (made exempt : List Location)
    (after : FileTree) : Prop where
  home : after.workingDirectory = before.workingDirectory
  absent : ∀ location ∈ made, before.kindAt? location = none
  onTheWay : ∀ location ∈ made, after.OnTheWayTo path location
  kinds : ∀ location, location ∉ exempt → after.kindAt? location =
    if location ∈ made then some .directory else before.kindAt? location

theorem framed_of_made {path : Path} {made : List Location} {after : FileTree}
    (steps : Made tree made after) (onTheWay : ∀ location ∈ made, after.OnTheWayTo path location) :
    Framed tree path made [] after :=
  ⟨steps.grown.home, steps.absent, onTheWay, fun location _ => steps.kindAt? location⟩

theorem framed_of_written {path : Path} {content : Text.Bytes} {made : List Location}
    {between : FileTree} {directory : Location} {name : FileTree.Name}
    (written : Written tree path content made between directory name)
    (onTheWay : ∀ location ∈ made, between.OnTheWayTo path location) :
    Framed tree path made [directory ++ [name]]
      (between.put (directory ++ [name]) (.file content)) := by
  refine ⟨written.steps.grown.home, written.steps.absent, ?_, ?_⟩
  · intro location member
    obtain ⟨parent, ancestor, up, above, reached⟩ := onTheWay location member
    exact ⟨parent, ancestor, up, above, written.admits.grown.locate reached⟩
  · intro location other
    rw [List.mem_singleton] at other
    rw [written.admits.kindAt?_put, if_neg other]
    exact written.steps.kindAt? location

theorem Framed.files {path : Path} {made : List Location} {after : FileTree}
    (framed : Framed tree path made [] after) (location : Location) (content : Text.Bytes) :
    after.kindAt? location = some (.file content) ↔
      tree.kindAt? location = some (.file content) := by
  rw [framed.kinds location (by simp)]
  split
  · rename_i member
    simp [framed.absent location member]
  · exact Iff.rfl

theorem generate_changes_only_the_report (tree : AnchoredTree) (projectRoot : Path)
    (settings : Settings) (generatedOn : String) :
    let built := (Project.build tree projectRoot settings).result
    let path := settings.reportPath projectRoot
    let outcome := (generate tree projectRoot settings generatedOn).1.result
    let after := (generate tree projectRoot settings generatedOn).2
    (∀ error, built = .error error → outcome = .error error ∧ after = tree) ∧
    (∀ project error, built = .ok project → outcome = .error error →
      (∀ location content, after.kindAt? location = some (.file content) ↔
        tree.kindAt? location = some (.file content)) ∧
      ∃ made, Framed tree path made [] after) ∧
    ∀ generated, outcome = .ok generated →
      ∃ project, built = .ok project ∧ generated.project = project ∧
        generated.outputPath = path ∧
        generated.report = project.render settings.outputFormat ⟨settings.title, generatedOn⟩ ∧
      ∃ location made, after.locate path = .ok location ∧
        after.kindAt? location = some (.file (Text.encode generated.report)) ∧
        (∀ parent, path.parent? = some parent → parent.bytes ≠ [] →
          after.isDirectory parent = true) ∧
        Framed tree path made [location] after := by
  intro built path outcome after
  refine ⟨fun error => generate_of_failed_build generatedOn, ?_, ?_⟩
  · intro project error scanned failed
    obtain ⟨made, between, steps, onTheWay, ⟨fault, _, changed⟩ | ⟨_, _, _, done, _⟩⟩ :=
      generate_cases tree generatedOn scanned
    · have framed : Framed tree path made [] after := by
        rw [show after = between from changed]
        exact framed_of_made steps onTheWay
      exact ⟨framed.files, made, framed⟩
    · rw [show outcome = _ from done] at failed
      cases failed
  · intro generated done
    cases scanned : built with
    | error error =>
      rw [show outcome = _ from (generate_of_failed_build generatedOn scanned).1] at done
      cases done
    | ok project =>
      obtain ⟨made, between, steps, onTheWay,
          ⟨fault, failed, _⟩ | ⟨directory, name, written, result, changed⟩⟩ :=
        generate_cases tree generatedOn scanned
      · rw [show outcome = _ from failed] at done
        cases done
      · rw [show outcome = _ from result] at done
        cases done
        refine ⟨project, rfl, rfl, rfl, rfl, directory ++ [name], made, ?_⟩
        rw [show after = _ from changed]
        refine ⟨locate_written written.admits written.resolved, ?_, ?_,
          framed_of_written written onTheWay⟩
        · rw [written.admits.kindAt?_put, if_pos rfl]
          rfl
        · intro parent up nonempty
          exact written.admits.grown.isDirectory (written.parent parent up nonempty)

/-- The report's path goes through a link, and up again from a directory that is not there. -/
def redirectedProject : Workspace where
  toSoundTree := .ofEdits
    [.makeDirectories (.ofString "real"),
      .writeFile (.ofString "real/all") (Text.encode "old"),
      .makeLink (.ofString "doc") (.ofString "real")]
  anchored := by cbv

def redirectedSettings : Settings :=
  { allowMissingRoots := true, outputPath := .ofString "doc/new/../all" }

theorem linked_report_is_framed :
    ∃ generated location made,
      (generate redirectedProject (.ofString ".") redirectedSettings "").1.result =
        .ok generated ∧
      (generate redirectedProject (.ofString ".") redirectedSettings "").2.kindAt? location =
        some (.file (Text.encode generated.report)) ∧
      Framed redirectedProject (redirectedSettings.reportPath (.ofString ".")) made [location]
        (generate redirectedProject (.ofString ".") redirectedSettings "").2 := by
  obtain ⟨_, _, written⟩ :=
    generate_changes_only_the_report redirectedProject (.ofString ".") redirectedSettings ""
  have scans : (Project.build redirectedProject (.ofString ".")
      redirectedSettings).result.isOk = true := by cbv
  have writes : ∀ content, (redirectedProject.writeWithParents
      (redirectedSettings.reportPath (.ofString ".")) content).1 = .ok () := by
    intro content
    unfold writeWithParents
    generalize Text.encode content = bytes
    cbv
  obtain ⟨project, built⟩ := Traced.result_of_isOk scans
  obtain ⟨result, _⟩ := generate_of_build "" built
  rw [writes] at result
  obtain ⟨_, _, _, _, _, location, made, _, holds, _, framed⟩ := written _ result
  exact ⟨_, location, made, result, holds, framed⟩

end CodeInventory
