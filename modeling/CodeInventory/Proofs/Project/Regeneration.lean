import CodeInventory.Proofs.Inventory.Rescan
import CodeInventory.Proofs.Project.Dependence
import CodeInventory.Proofs.Project.Frame
import CodeInventory.Proofs.Text.Order

namespace CodeInventory.FileTree

open CodeInventory.Path CodeInventory.Text

/-- Without links a file is written under the last name of its path. -/
theorem Written.fileName {before : AnchoredTree} {between : FileTree} {path : Path}
    {content : Bytes} {made : List Location} {directory : Location} {name : Name}
    (written : Written before path content made between directory name)
    (unlinked : before.Unlinked) : path.fileName? = some name := by
  have grown := written.steps.grown.trans written.admits.grown
  have linkless := written.admits.unlinked (written.steps.unlinked unlinked)
  have file := kindAt?_of_at? written.admits.at?_put_self
  obtain ⟨_, leads⟩ := resolve_ok_iff.1 written.resolved
  obtain ⟨front, home, last, segments, same⟩ :=
    leads.last_segment linkless (directory_origin path (grown.anchored before.anchored)) file
  obtain ⟨_, names⟩ := List.append_inj' same rfl
  rw [← names] at segments
  exact fileName?_of_segments segments written.admits.valid

end CodeInventory.FileTree

namespace CodeInventory

open CodeInventory.FileTree CodeInventory.Source CodeInventory.Text

variable {before : SoundTree} {between : FileTree} {projectRoot : Path} {settings : Settings}
  {root : RootSettings} {made : List Location} {directory : Location} {name : FileTree.Name}

def RootSettings.Ignores (root : RootSettings) (name : FileTree.Name) : Prop :=
  ∀ text ∈ root.patterns, ∀ pattern, Glob.parse text = .ok pattern →
    pattern.accepts (decodeLossy name) = false

theorem RootSettings.Ignores.compiled {patterns : List Glob.Pattern}
    (ignores : root.Ignores name) (compiled : root.compile = .ok patterns) :
    patterns.any (·.accepts (decodeLossy name)) = false := by
  rw [Bool.eq_false_iff]
  intro matching
  obtain ⟨text, member, pattern, parsed, accepted⟩ := (root.compile_any compiled _).1 matching
  rw [ignores text member pattern parsed] at accepted
  cases accepted

/-- Directories that have appeared below the root can be opened by the root's path and their
names. -/
def RootSettings.GrownWithinReach (root : RootSettings) (projectRoot : Path)
    (before after : FileTree) : Prop :=
  ∀ location names, after.locate (projectRoot.join (.ofString root.dir)) = .ok location →
    before.kindAt? (location ++ names) = none →
    after.kindAt? (location ++ names) = some .directory →
    (pathBelow (projectRoot.join (.ofString root.dir)) names).bytes.length ≤ pathLimit

theorem RootSettings.withinReach_made {path : Path} {content : Bytes}
    (written : Written before path content made between directory name)
    (reach : root.GrownWithinReach projectRoot before
      (between.put (directory ++ [name]) (.file content))) :
    Scanner.WithinReach between (projectRoot.join (.ofString root.dir)) made := by
  intro location names reached member
  have grown := written.admits.grown
  have appeared : between.kindAt? (location ++ names) = some .directory := by
    rw [written.steps.kindAt?, if_pos member]
  exact reach location names (grown.locate reached) (written.steps.absent _ member)
    (grown.directory appeared)

namespace Project

theorem scanRoot_written {α : Type} {extractor : Extractor α} {path : Path} {content : Bytes}
    {scanned : Scanned α} (written : Written before path content made between directory name)
    (unlinked : before.Unlinked) (home : before.isDirectory projectRoot = true)
    (plain : Component.up ∉ (Path.ofString root.dir).components) (ignored : root.Ignores name)
    (done : (scanRoot before settings projectRoot root extractor).result = .ok scanned) :
    let after := between.put (directory ++ [name]) (.file content)
    ∃ again, (scanRoot after settings projectRoot root extractor).result = .ok again ∧
      again.inventory = scanned.inventory ∧
      (root.GrownWithinReach projectRoot before after → again.skipped = scanned.skipped) := by
  intro after
  obtain ⟨patterns, compiled, scan⟩ := scanRoot_ok done
  obtain ⟨location, reached, kind⟩ := isDirectory_iff.1 home
  have opens : ∀ tree, Grown before tree → tree.Unlinked → Scanner.OpensAt _ _ _ tree :=
    fun tree grown linkless => Scanner.opensAt_straight linkless (grown.locate reached)
      (grown.directory kind) (mt Path.up_mem_components_iff.2 plain)
  obtain ⟨again, rescan, inventory, skipped⟩ :=
    Scanner.scansAgain_written written unlinked (ignored.compiled compiled) opens
      scanned scan
  refine ⟨again, ?_, inventory, fun reach => skipped (RootSettings.withinReach_made written reach)⟩
  unfold scanRoot
  rw [compiled]
  exact rescan

theorem build_written {path : Path} {content : Bytes} {project : Project}
    (written : Written before path content made between directory name)
    (unlinked : before.Unlinked)
    (plain : ∀ root ∈ [settings.sources, settings.benches, settings.tests],
      Component.up ∉ (Path.ofString root.dir).components)
    (ignored : ∀ root ∈ [settings.sources, settings.benches, settings.tests], root.Ignores name)
    (done : (build before projectRoot settings).result = .ok project) :
    let after := between.put (directory ++ [name]) (.file content)
    ∃ again, (build after projectRoot settings).result = .ok again ∧
      again.sources = project.sources ∧ again.benches = project.benches ∧
      again.tests = project.tests ∧
      ((∀ root ∈ [settings.sources, settings.benches, settings.tests],
          root.GrownWithinReach projectRoot before after) →
        again.skipped = project.skipped) := by
  intro after
  have home := directory_of_build done
  have grown := written.steps.grown.trans written.admits.grown
  obtain ⟨sources, benches, tests, first, second, third, rfl⟩ := build_ok done
  simp only [List.forall_mem_cons] at plain ignored
  obtain ⟨plainSources, plainBenches, plainTests, _⟩ := plain
  obtain ⟨ignoredSources, ignoredBenches, ignoredTests, _⟩ := ignored
  obtain ⟨sourcesAgain, rescanned, sameSources, skippedSources⟩ :=
    scanRoot_written written unlinked home plainSources ignoredSources first
  obtain ⟨benchesAgain, rescannedBenches, sameBenches, skippedBenches⟩ :=
    scanRoot_written written unlinked home plainBenches ignoredBenches second
  obtain ⟨testsAgain, rescannedTests, sameTests, skippedTests⟩ :=
    scanRoot_written written unlinked home plainTests ignoredTests third
  refine ⟨_, build_of_scans (grown.isDirectory home) rescanned rescannedBenches rescannedTests,
    sameSources, sameBenches, sameTests, fun reach => ?_⟩
  rw [skippedSources (reach _ (by simp)), skippedBenches (reach _ (by simp)),
    skippedTests (reach _ (by simp))]

end Project

theorem regeneration_repeats_the_report (tree : Workspace) (projectRoot : Path)
    (settings : Settings) (generatedOn : String) (first : Generated) (unlinked : tree.Unlinked)
    (plain : ∀ root ∈ [settings.sources, settings.benches, settings.tests],
      Component.up ∉ (Path.ofString root.dir).components)
    (ignored : ∀ root ∈ [settings.sources, settings.benches, settings.tests],
      ∀ name, (settings.reportPath projectRoot).fileName? = some name → root.Ignores name)
    (done : (generate tree projectRoot settings generatedOn).1.result = .ok first) :
    let after := (generate tree projectRoot settings generatedOn).2
    ∃ second, (generate after projectRoot settings generatedOn).1.result = .ok second ∧
      (generate after projectRoot settings generatedOn).2 = after ∧
      second.project.sources = first.project.sources ∧
      second.project.benches = first.project.benches ∧
      second.project.tests = first.project.tests ∧
      second.project.summary = first.project.summary ∧
      second.report = first.report ∧
      ((∀ root ∈ [settings.sources, settings.benches, settings.tests],
          root.GrownWithinReach projectRoot tree after) →
        second.project.skipped = first.project.skipped) := by
  intro after
  cases built : (Project.build tree projectRoot settings).result with
  | error error =>
    rw [(generate_of_failed_build generatedOn built).1] at done
    cases done
  | ok project =>
    obtain ⟨made, between, _, _,
        ⟨fault, failed, _⟩ | ⟨directory, name, written, result, changed⟩⟩ :=
      generate_cases tree generatedOn built
    · rw [failed] at done
      cases done
    · rw [result] at done
      cases done
      have named := written.fileName unlinked
      obtain ⟨again, rebuilt, sources, benches, tests, skipped⟩ :=
        Project.build_written written unlinked plain
          (fun root member => ignored root member name named) built
      have report : settings.reportOf generatedOn again =
          settings.reportOf generatedOn project := by
        simp only [Settings.reportOf, Project.render, sources, benches, tests]
      obtain ⟨regenerated, kept⟩ := generate_of_build generatedOn rebuilt
      rw [report, written.again, ← changed] at regenerated kept
      refine ⟨_, regenerated, kept, sources, benches, tests, ?_, rfl, ?_⟩
      · simp only [Project.summary, sources, benches, tests]
      · rw [← changed] at skipped
        exact skipped

/-- One source; two other roots have appeared, and the report is written below them. -/
def documentedProject (report : Bytes) : FileTree where
  root := .directory
    [(encode "doc", .directory [(encode "new", .directory [(encode "all.md", .file report)])]),
      (encode "src", .directory [(encode "a.ts", .file (encode "export const x = 1"))])]
  workingDirectory := []

def documentingSettings : Settings where
  sources := ⟨"src", ["*.ts"]⟩
  benches := ⟨"doc", ["*.ts"]⟩
  tests := ⟨"doc/new", ["*.ts"]⟩
  allowMissingRoots := true
  outputPath := .ofString "doc/new/all.md"

theorem ignores_markdown (dir : String) :
    RootSettings.Ignores ⟨dir, ["*.ts"]⟩ (encode "all.md") := by
  have plain : ∀ c ∈ ".ts".toList, Glob.Plain c := by simp [Glob.Plain]
  have parsed : Glob.parse "*.ts" = .ok (Glob.ending ".ts") := Glob.parse_ending plain
  intro text inside pattern known
  rw [List.mem_singleton.1 inside, parsed] at known
  cases known
  cbv

theorem documentingSettings_ignore :
    ∀ root ∈ [documentingSettings.sources, documentingSettings.benches, documentingSettings.tests],
      ∀ name, (documentingSettings.reportPath (.ofString ".")).fileName? = some name →
        root.Ignores name := by
  intro root member name named
  have file : (documentingSettings.reportPath (.ofString ".")).fileName? =
      some (encode "all.md") := by cbv
  cases file.symm.trans named
  revert root
  simp only [List.forall_mem_cons]
  exact ⟨ignores_markdown _, ignores_markdown _, ignores_markdown _, by simp⟩

theorem oneSourceProject_written (content : String) :
    oneSourceProject.writeWithParents (documentingSettings.reportPath (.ofString ".")) content =
      (.ok (), documentedProject (encode content)) := by
  unfold writeWithParents
  generalize encode content = bytes
  cbv

theorem documentedProject_within_reach (report : Bytes) :
    ∀ root ∈ [documentingSettings.sources, documentingSettings.benches, documentingSettings.tests],
      root.GrownWithinReach (.ofString ".") oneSourceProject (documentedProject report) := by
  have listed : (documentedProject report).root.directories =
      [[], [encode "doc"], [encode "doc", encode "new"], [encode "src"]] := by cbv
  have different : encode "src" ≠ encode "doc" := by decide +kernel
  have within : ∀ dir home,
      (documentedProject report).locate ((Path.ofString ".").join (.ofString dir)) = .ok home →
      (∀ names, home ++ names ∈ (documentedProject report).root.directories →
        (pathBelow ((Path.ofString ".").join (.ofString dir)) names).bytes.length ≤ pathLimit) →
      RootSettings.GrownWithinReach ⟨dir, ["*.ts"]⟩ (.ofString ".") oneSourceProject
        (documentedProject report) := by
    intro dir home leads short location names reached _ found
    obtain ⟨entries, there⟩ := kindAt?_directory.1 found
    cases leads.symm.trans reached
    exact short names (mem_directories there)
  simp only [List.forall_mem_cons]
  refine ⟨within "src" [encode "src"] (by cbv) ?_, within "doc" [encode "doc"] (by cbv) ?_,
    within "doc/new" [encode "doc", encode "new"] (by cbv) ?_, by simp⟩
  · intro names inside
    obtain rfl : names = [] := by simpa [listed, different] using inside
    decide +kernel
  · intro names inside
    obtain rfl | rfl : names = [] ∨ names = [encode "new"] := by
      simpa [listed, Ne.symm different] using inside
    · decide +kernel
    · decide +kernel
  · intro names inside
    obtain rfl : names = [] := by simpa [listed] using inside
    decide +kernel

theorem documented_project_repeats :
    ∃ first second,
      (generate oneSourceProject (.ofString ".") documentingSettings "").1.result = .ok first ∧
      (generate (documentedProject (encode first.report)) (.ofString ".") documentingSettings
        "").1.result = .ok second ∧
      second.report = first.report ∧ second.project.skipped = first.project.skipped := by
  have scans : (Project.build oneSourceProject (.ofString ".")
      documentingSettings).result.isOk = true := by cbv
  obtain ⟨project, built⟩ := Traced.result_of_isOk scans
  obtain ⟨done, changed⟩ := generate_of_build "" built
  rw [oneSourceProject_written] at done changed
  have plain : ∀ root ∈ [documentingSettings.sources, documentingSettings.benches,
      documentingSettings.tests], Component.up ∉ (Path.ofString root.dir).components := by
    simp only [List.forall_mem_cons]
    exact ⟨by decide +kernel, by decide +kernel, by decide +kernel, by simp⟩
  obtain ⟨second, again, _, _, _, _, _, report, skipped⟩ :=
    regeneration_repeats_the_report oneSourceProject (.ofString ".") documentingSettings "" _
      oneSourceProject_unlinked plain documentingSettings_ignore done
  rw [changed] at again skipped
  exact ⟨_, second, done, again, report, skipped (documentedProject_within_reach _)⟩

def slashedRoot (count : Nat) : RootSettings where
  dir := String.ofList ('.' :: List.replicate count '/')
  patterns := ["*.ts"]

def slashedPath (count : Nat) : Path :=
  (Path.ofString ".").join (.ofString (slashedRoot count).dir)

theorem encode_slashed (count : Nat) :
    encode (slashedRoot count).dir = 0x2e :: List.replicate count Path.slash := by
  have dot : String.utf8EncodeChar '.' = [0x2e] := by decide +kernel
  have slash : String.utf8EncodeChar '/' = [Path.slash] := by decide +kernel
  rw [encode_eq_flatMap, slashedRoot, String.toList_ofList, List.flatMap_cons,
    List.flatMap_replicate, dot, slash]
  simp

theorem slashedPath_bytes (count : Nat) :
    (slashedPath count).bytes =
      [0x2e] ++ Path.slash :: 0x2e :: List.replicate count Path.slash := by
  have relative : (Path.ofString (slashedRoot count).dir).isAbsolute = false := by
    simp [Path.isAbsolute, Path.ofString, encode_slashed, Path.slash]
  have here : encode "." = [0x2e] := by decide +kernel
  rw [slashedPath, Path.join_relative _ relative]
  simp [Path.ofString, encode_slashed, here, Path.slash]

theorem slashedPath_length (count : Nat) : (slashedPath count).bytes.length = count + 3 := by
  simp [slashedPath_bytes]

theorem slashedRoot_idle (count : Nat) :
    ∀ segment ∈ Path.segmentsOf (encode (slashedRoot count).dir), Path.isIdle segment = true := by
  have slashes : ∀ count, ∀ segment ∈ Path.segmentsOf (List.replicate count Path.slash),
      Path.isIdle segment = true := by
    intro count
    induction count with
    | zero => decide
    | succ count ih =>
      rw [List.replicate_succ, Path.segmentsOf, if_pos rfl]
      exact List.forall_mem_cons.2 ⟨rfl, ih⟩
  rw [encode_slashed]
  cases count with
  | zero => decide
  | succ count =>
    rw [List.replicate_succ, ← List.singleton_append, Path.segmentsOf_slash]
    exact List.forall_mem_cons.2 ⟨by decide, slashes count⟩

theorem slashedRoot_plain (count : Nat) :
    Component.up ∉ (Path.ofString (slashedRoot count).dir).components := by
  intro up
  have idle := slashedRoot_idle count _ (Path.up_mem_components_iff.1 up)
  exact absurd idle (by decide)

theorem openRoot?_slashed {count : Nat} {tree : FileTree} {entries : Entries}
    (short : count + 3 ≤ pathLimit) (home : tree.workingDirectory = [])
    (there : tree.root = .directory entries) :
    Scanner.openRoot? tree (slashedPath count) = some ([], entries) := by
  have bytes := slashedPath_bytes count
  have relative : (slashedPath count).isAbsolute = false := by
    simp [Path.isAbsolute, bytes, Path.slash]
  have usable : Usable (slashedPath count) := by
    refine ⟨by simp [bytes], by simp [bytes, Path.slash], ?_⟩
    rw [slashedPath_length]
    exact short
  refine Scanner.openRoot?_of_locate (locate_ok_iff.2 ⟨usable, ?_⟩) (by rw [there]; rfl)
  rw [origin, relative, home]
  have idle : ∀ segment ∈ Path.segmentsOf (slashedPath count).bytes,
      Path.isIdle segment = true := by
    rw [bytes, Path.segmentsOf_slash, ← encode_slashed]
    exact List.forall_mem_cons.2 ⟨by decide, slashedRoot_idle count⟩
  exact leads_idle idle linkLimit []

/-- A root with such a path is scanned, but not what lies below it under a name that makes the path
too long. -/
theorem scanRoot_slashed {α : Type} (extractor : Extractor α) {settings : Settings} {count : Nat}
    {tree : FileTree} {entries : Entries} (short : count + 3 ≤ pathLimit)
    (home : tree.workingDirectory = []) (there : tree.root = .directory entries) :
    ∃ scanned,
      (Project.scanRoot tree settings (.ofString ".") (slashedRoot count) extractor).result =
        .ok scanned ∧
      (entries = [] → scanned.skipped = []) ∧
      ∀ name inside, entries = [(name, .directory inside)] → Path.NameValid name →
        pathLimit < count + 3 + name.length → scanned.skipped ≠ [] := by
  have compiled : (slashedRoot count).compile = .ok [Glob.ending ".ts"] :=
    RootSettings.compile_scripts _
  let scanner : Scanner := ⟨[Glob.ending ".ts"], settings.followLinks, settings.allowMissingRoots⟩
  have opened := openRoot?_slashed short home there
  obtain ⟨inventory, _, _, scan⟩ := Scanner.scan_of_opened scanner extractor opened
  have walked : scanner.visits tree (slashedPath count) =
      tree.walkEntries scanner.followLinks ⟨[], slashedPath count⟩ [] entries := by
    rw [Scanner.visits, opened]
  have done : (Project.scanRoot tree settings (.ofString ".") (slashedRoot count)
      extractor).result = (scanner.scan tree extractor (slashedPath count)).result := by
    unfold Project.scanRoot
    rw [compiled]
    rfl
  rw [scan] at done
  refine ⟨_, done, ?_, ?_⟩
  · rintro rfl
    rw [Scanner.found, walked, walkEntries]
    rfl
  · rintro name inside rfl valid long
    have beyond : pathLimit <
        (OpenDirectory.inner ⟨[], slashedPath count⟩ name).path.bytes.length := by
      obtain ⟨between, _, same⟩ := Path.join_bytes (slashedPath count) valid
      rw [OpenDirectory.inner, same, List.length_append, List.length_append, slashedPath_length]
      omega
    rw [Scanner.found, walked, walkEntries, if_pos beyond]
    simp [Scanner.discover]

def emptyProject : Workspace := ⟨.empty, rfl⟩

def slashedSettings : Settings where
  sources := slashedRoot 4085
  benches := slashedRoot 4085
  tests := slashedRoot 4085
  outputPath := .ofString "documentation/all.md"

def remoteProject (report : Bytes) : FileTree where
  root := .directory [(encode "documentation", .directory [(encode "all.md", .file report)])]
  workingDirectory := []

theorem emptyProject_written (content : String) :
    emptyProject.writeWithParents ((Path.ofString ".").join (.ofString "documentation/all.md"))
      content = (.ok (), remoteProject (encode content)) := by
  unfold writeWithParents
  generalize encode content = bytes
  cbv

theorem remoteProject_rewritten (report : Bytes) (content : String) :
    ((remoteProject report).writeWithParents
      ((Path.ofString ".").join (.ofString "documentation/all.md")) content).1 = .ok () := by
  unfold writeWithParents
  generalize encode content = bytes
  cbv

theorem remoteProject_isDirectory (report : Bytes) :
    (remoteProject report).isDirectory (.ofString ".") = true := by
  cbv

theorem build_slashed {entries : Entries} (tree : FileTree)
    (home : tree.workingDirectory = []) (there : tree.root = .directory entries)
    (directory : tree.isDirectory (.ofString ".") = true) :
    ∃ project, (Project.build tree (.ofString ".") slashedSettings).result = .ok project ∧
      (entries = [] → project.skipped = []) ∧
      ∀ inside, entries = [(encode "documentation", .directory inside)] → project.skipped ≠ [] := by
  have short : 4085 + 3 ≤ pathLimit := by decide
  obtain ⟨sources, first, none, some⟩ := scanRoot_slashed .symbols short home there
  obtain ⟨benches, second, noneToo, _⟩ := scanRoot_slashed .benchmarks short home there
  obtain ⟨tests, third, noneEither, _⟩ := scanRoot_slashed .behaviors short home there
  refine ⟨_, Project.build_of_scans directory first second third, ?_, ?_⟩
  · intro empty
    simp [none empty, noneToo empty, noneEither empty]
  · intro inside only
    have missed := some _ inside only (by decide +kernel) (by decide +kernel)
    simp [missed]

theorem regeneration_skips_what_is_too_deep :
    emptyProject.Unlinked ∧
      (∀ root ∈ [slashedSettings.sources, slashedSettings.benches, slashedSettings.tests],
        Component.up ∉ (Path.ofString root.dir).components ∧
        ∀ name, (slashedSettings.reportPath (.ofString ".")).fileName? = some name →
          root.Ignores name) ∧
      ∃ first second,
        (generate emptyProject (.ofString ".") slashedSettings "2025-01-02").1.result = .ok first ∧
        (generate (generate emptyProject (.ofString ".") slashedSettings "2025-01-02").2
          (.ofString ".") slashedSettings "2025-01-02").1.result = .ok second ∧
        second.project.skipped ≠ first.project.skipped := by
  refine ⟨unlinked_of_all (by cbv), ?_, ?_⟩
  · intro root member
    have same : root = slashedRoot 4085 := by simpa [slashedSettings] using member
    have named : ((Path.ofString ".").join (.ofString "documentation/all.md")).fileName? =
      some (encode "all.md") := by cbv
    rw [same]
    refine ⟨slashedRoot_plain 4085, fun name file => ?_⟩
    cases named.symm.trans file
    exact ignores_markdown _
  · have path : slashedSettings.reportPath (.ofString ".") =
        (Path.ofString ".").join (.ofString "documentation/all.md") := rfl
    obtain ⟨project, built, nothing, _⟩ := build_slashed emptyProject rfl rfl (by cbv)
    obtain ⟨done, changed⟩ := generate_of_build "2025-01-02" built
    rw [path, emptyProject_written] at done changed
    obtain ⟨again, rebuilt, _, something⟩ :=
      build_slashed (remoteProject (encode (slashedSettings.reportOf "2025-01-02" project))) rfl
        rfl (remoteProject_isDirectory _)
    obtain ⟨redone, _⟩ := generate_of_build "2025-01-02" rebuilt
    rw [path, remoteProject_rewritten] at redone
    rw [changed]
    refine ⟨_, _, done, redone, ?_⟩
    rw [show project.skipped = [] from nothing rfl]
    exact something _ rfl

end CodeInventory
