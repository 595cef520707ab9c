import CodeInventory.Proofs.FileTree.Creation
import CodeInventory.Proofs.Inventory.Rescan
import CodeInventory.Proofs.Project.Failures

namespace CodeInventory

open CodeInventory.FileTree CodeInventory.Source CodeInventory.Text

variable {tree before after : FileTree} {projectRoot : Path} {settings : Settings}

def Settings.allowing (settings : Settings) (missingRoots : Bool) : Settings :=
  { settings with allowMissingRoots := missingRoots }

def Settings.roots (settings : Settings) : List RootSettings :=
  [settings.sources, settings.benches, settings.tests]

def Settings.rootPaths (settings : Settings) (projectRoot : Path) : List Path :=
  settings.roots.map fun root => projectRoot.join (.ofString root.dir)

namespace Scanner

variable {α : Type} {extractor : Extractor α} {root : Path} {patterns : List Glob.Pattern}
  {followLinks : Bool}

theorem isDirectory_of_openRoot? {place : Location × Entries}
    (opened : openRoot? tree root = some place) : tree.isDirectory root = true := by
  obtain ⟨location, entries⟩ := place
  obtain ⟨reached, there⟩ := openRoot?_eq_some opened
  exact isDirectory_iff.2 ⟨location, reached, kindAt?_of_at? there⟩

theorem scan_of_isDirectory (there : tree.isDirectory root = true) (allowed other : Bool) :
    scan ⟨patterns, followLinks, allowed⟩ tree extractor root =
      scan ⟨patterns, followLinks, other⟩ tree extractor root := by
  obtain ⟨location, reached, kind⟩ := isDirectory_iff.1 there
  obtain ⟨entries, directory⟩ := kindAt?_directory.1 kind
  have opened := openRoot?_of_locate reached directory
  simp only [scan, opened]
  rfl

theorem isDirectory_of_scan {scanned : Scanned α}
    (done : (scan ⟨patterns, followLinks, false⟩ tree extractor root).result = .ok scanned) :
    tree.isDirectory root = true := by
  cases opened : openRoot? tree root with
  | none =>
    simp only [scan, opened] at done
    cases done
  | some place => exact isDirectory_of_openRoot? opened

theorem exists_scan_allowing (patterns : List Glob.Pattern) (followLinks : Bool)
    (tree : FileTree) (extractor : Extractor α) (root : Path) :
    ∃ scanned, (scan ⟨patterns, followLinks, true⟩ tree extractor root).result = .ok scanned := by
  cases result : (scan ⟨patterns, followLinks, true⟩ tree extractor root).result with
  | ok scanned => exact ⟨scanned, rfl⟩
  | error error =>
    obtain ⟨_, refused, _⟩ := scan_fails result
    cases refused

end Scanner

namespace Project

/-- What is scanned of each root in one tree is scanned of it in another, under a setting of its
own. -/
def RootsRepeat (before after : FileTree) (projectRoot : Path) (settings : Settings)
    (first second : Bool) (skipping : Prop) : Prop :=
  ∀ root ∈ settings.roots, ∀ (α : Type) (extractor : Extractor α) (scanned : Scanned α),
    (scanRoot before (settings.allowing first) projectRoot root extractor).result = .ok scanned →
    ∃ again,
      (scanRoot after (settings.allowing second) projectRoot root extractor).result = .ok again ∧
      again.inventory = scanned.inventory ∧ (skipping → again.skipped = scanned.skipped)

theorem RootsRepeat.build {first second : Bool} {skipping : Prop} {project : Project}
    (repeats : RootsRepeat before after projectRoot settings first second skipping)
    (home : after.isDirectory projectRoot = true)
    (done : (build before projectRoot (settings.allowing first)).result = .ok project) :
    ∃ again, (build after projectRoot (settings.allowing second)).result = .ok again ∧
      again.sources = project.sources ∧ again.benches = project.benches ∧
      again.tests = project.tests ∧ (skipping → again.skipped = project.skipped) := by
  obtain ⟨sources, benches, tests, one, two, three, rfl⟩ := build_ok done
  obtain ⟨sourcesAgain, sourcesDone, sameSources, skippedSources⟩ :=
    repeats settings.sources (by simp [Settings.roots]) _ _ sources one
  obtain ⟨benchesAgain, benchesDone, sameBenches, skippedBenches⟩ :=
    repeats settings.benches (by simp [Settings.roots]) _ _ benches two
  obtain ⟨testsAgain, testsDone, sameTests, skippedTests⟩ :=
    repeats settings.tests (by simp [Settings.roots]) _ _ tests three
  refine ⟨_, build_of_scans home sourcesDone benchesDone testsDone, sameSources, sameBenches,
    sameTests, fun skips => ?_⟩
  rw [skippedSources skips, skippedBenches skips, skippedTests skips]

theorem scanRoot_of_compile {α : Type} {root : RootSettings} {patterns : List Glob.Pattern}
    (compiled : root.compile = .ok patterns) (extractor : Extractor α) :
    (scanRoot tree settings projectRoot root extractor).result =
      (Scanner.scan ⟨patterns, settings.followLinks, settings.allowMissingRoots⟩ tree extractor
        (projectRoot.join (.ofString root.dir))).result := by
  unfold scanRoot
  rw [compiled]
  rfl

theorem build_allowing {project : Project}
    (done : (build tree projectRoot (settings.allowing false)).result = .ok project) :
    (build tree projectRoot (settings.allowing true)).result = .ok project := by
  have repeats : RootsRepeat tree tree projectRoot settings false true True := by
    intro root _ α extractor scanned found
    obtain ⟨patterns, compiled, scan⟩ := scanRoot_ok found
    have there := Scanner.isDirectory_of_scan scan
    refine ⟨scanned, ?_, rfl, fun _ => rfl⟩
    rw [scanRoot_of_compile compiled, ← scan]
    exact congrArg Traced.result (Scanner.scan_of_isDirectory there _ _)
  obtain ⟨again, redone, sources, benches, tests, skipped⟩ :=
    repeats.build (directory_of_build done) done
  obtain rfl : again = project := by
    obtain ⟨_, _, _, _⟩ := again
    cases sources
    cases benches
    cases tests
    cases skipped True.intro
    rfl
  exact redone

theorem build_allowing_iff :
    (∃ project, (build tree projectRoot (settings.allowing true)).result = .ok project) ↔
      tree.isDirectory projectRoot = true ∧ PatternsCompile settings := by
  constructor
  · rintro ⟨project, done⟩
    obtain ⟨sources, benches, tests, one, two, three, _⟩ := build_ok done
    refine ⟨directory_of_build done, ?_⟩
    obtain ⟨sourcePatterns, compiledSources, _⟩ := scanRoot_ok one
    obtain ⟨benchPatterns, compiledBenches, _⟩ := scanRoot_ok two
    obtain ⟨testPatterns, compiledTests, _⟩ := scanRoot_ok three
    simp only [PatternsCompile, List.forall_mem_cons]
    exact ⟨⟨_, compiledSources⟩, ⟨_, compiledBenches⟩, ⟨_, compiledTests⟩, by simp⟩
  · rintro ⟨home, compile⟩
    have scans : ∀ root ∈ settings.roots, ∀ (α : Type) (extractor : Extractor α), ∃ scanned,
        (scanRoot tree (settings.allowing true) projectRoot root extractor).result =
          .ok scanned := by
      intro root member α extractor
      obtain ⟨patterns, compiled⟩ := compile root member
      rw [scanRoot_of_compile compiled]
      exact Scanner.exists_scan_allowing patterns _ tree extractor _
    obtain ⟨sources, one⟩ := scans settings.sources (by simp [Settings.roots]) _ .symbols
    obtain ⟨benches, two⟩ := scans settings.benches (by simp [Settings.roots]) _ .benchmarks
    obtain ⟨tests, three⟩ := scans settings.tests (by simp [Settings.roots]) _ .behaviors
    exact ⟨_, build_of_scans home one two three⟩

/-- Where directories have been made until every root is one, the allowance is not needed. -/
theorem build_completed {tree : SoundTree} {project : Project} {made : List Location}
    (unlinked : tree.Unlinked)
    (plain : ∀ root ∈ settings.roots, Component.up ∉ (Path.ofString root.dir).components)
    (completed : Completed tree (settings.rootPaths projectRoot) made after)
    (done : (build tree projectRoot (settings.allowing true)).result = .ok project) :
    ∃ again, (build after projectRoot (settings.allowing false)).result = .ok again ∧
      again.sources = project.sources ∧ again.benches = project.benches ∧
      again.tests = project.tests := by
  have home := directory_of_build done
  obtain ⟨location, reached, kind⟩ := isDirectory_iff.1 home
  have repeats : RootsRepeat tree after projectRoot settings true false False := by
    intro root member α extractor scanned found
    obtain ⟨patterns, compiled, scan⟩ := scanRoot_ok found
    have opens : ∀ grownTree, Grown tree grownTree → grownTree.Unlinked →
        Scanner.OpensAt _ _ _ grownTree :=
      fun _ grown linkless => Scanner.opensAt_straight linkless (grown.locate reached)
        (grown.directory kind) (mt Path.up_mem_components_iff.2 (plain root member))
    obtain ⟨again, rescan, inventory, _⟩ :=
      Scanner.scansAgain_made completed.steps unlinked opens scanned scan
    have there := completed.directories _ (List.mem_map_of_mem member)
    refine ⟨again, ?_, inventory, False.elim⟩
    rw [scanRoot_of_compile compiled, ← rescan]
    exact congrArg Traced.result (Scanner.scan_of_isDirectory there _ _)
  obtain ⟨again, redone, sources, benches, tests, _⟩ :=
    repeats.build (completed.steps.grown.isDirectory home) done
  exact ⟨again, redone, sources, benches, tests⟩

theorem missing_roots_count_as_empty (tree : SoundTree) (projectRoot : Path) (settings : Settings)
    (unlinked : tree.Unlinked) :
    (∀ project, (build tree projectRoot (settings.allowing false)).result = .ok project →
      (build tree projectRoot (settings.allowing true)).result = .ok project) ∧
    ((∃ project, (build tree projectRoot (settings.allowing true)).result = .ok project) ↔
      tree.isDirectory projectRoot = true ∧ PatternsCompile settings) ∧
    ∀ project, (build tree projectRoot (settings.allowing true)).result = .ok project →
      (∀ root ∈ settings.roots, Component.up ∉ (Path.ofString root.dir).components) →
      (∀ path ∈ settings.rootPaths projectRoot, tree.isDirectory path = true ∨
        tree.pathExists path = false ∧ tree.Creatable path) →
      (∃ made after, Completed tree (settings.rootPaths projectRoot) made after) ∧
      ∀ made after, Completed tree (settings.rootPaths projectRoot) made after →
        ∃ again, (build after projectRoot (settings.allowing false)).result = .ok again ∧
          again.sources = project.sources ∧ again.benches = project.benches ∧
          again.tests = project.tests := by
  refine ⟨fun project => build_allowing, build_allowing_iff, ?_⟩
  intro project done plain ready
  constructor
  · obtain ⟨location, reached, kind⟩ := isDirectory_iff.1 (directory_of_build done)
    have paths : settings.rootPaths projectRoot =
        (settings.roots.map fun root => Path.ofString root.dir).map projectRoot.join := by
      rw [List.map_map]
      rfl
    rw [paths] at ready ⊢
    refine exists_completed unlinked reached kind ?_ (List.forall_mem_map.1 ready)
    exact List.forall_mem_map.2 fun root member =>
      mt Path.up_mem_components_iff.2 (plain root member)
  · intro made after completed
    exact build_completed unlinked plain completed done

/-- Three roots, each below the one before it. -/
def nestedSettings : Settings where
  sources := ⟨"src", ["*.ts"]⟩
  benches := ⟨"src/bench", ["*.ts"]⟩
  tests := ⟨"src/bench/test", ["*.ts"]⟩

theorem nestedSettings_compile : PatternsCompile nestedSettings := by
  simp only [PatternsCompile, List.forall_mem_cons]
  have compiled : ∀ dir, ∃ patterns, RootSettings.compile ⟨dir, ["*.ts"]⟩ = .ok patterns :=
    fun dir => ⟨_, RootSettings.compile_scripts dir⟩
  exact ⟨compiled _, compiled _, compiled _, by simp⟩

theorem nestedSettings_plain :
    ∀ root ∈ nestedSettings.roots, Component.up ∉ (Path.ofString root.dir).components := by
  simp only [Settings.roots, List.forall_mem_cons]
  exact ⟨by decide +kernel, by decide +kernel, by decide +kernel, by simp⟩

theorem nestedSettings_ready :
    ∀ path ∈ nestedSettings.rootPaths (.ofString "."), oneSourceProject.isDirectory path = true ∨
      oneSourceProject.pathExists path = false ∧ oneSourceProject.Creatable path := by
  simp only [Settings.rootPaths, Settings.roots, List.forall_mem_map, List.forall_mem_cons]
  refine ⟨.inl (by cbv), .inr ⟨by cbv, ?_⟩, .inr ⟨by cbv, ?_⟩, by simp⟩
  · exact creatable_of_makeDirectories oneSourceProject (by decide +kernel) (by decide +kernel)
      (by cbv)
  · exact creatable_of_makeDirectories oneSourceProject (by decide +kernel) (by decide +kernel)
      (by cbv)

theorem nested_roots_count_as_empty :
    ∃ project made after again,
      (build oneSourceProject (.ofString ".") (nestedSettings.allowing true)).result = .ok project ∧
      (build oneSourceProject (.ofString ".") (nestedSettings.allowing false)).result.isOk = false ∧
      Completed oneSourceProject (nestedSettings.rootPaths (.ofString ".")) made after ∧
      (build after (.ofString ".") (nestedSettings.allowing false)).result = .ok again ∧
      (build after (.ofString ".") (nestedSettings.allowing true)).result = .ok again ∧
      again.sources = project.sources ∧ again.benches = project.benches ∧
      again.tests = project.tests := by
  obtain ⟨_, succeeds, completes⟩ := missing_roots_count_as_empty oneSourceProject (.ofString ".")
    nestedSettings oneSourceProject_unlinked
  obtain ⟨project, built⟩ := succeeds.2 ⟨by cbv, nestedSettings_compile⟩
  obtain ⟨⟨made, after, completed⟩, rebuilds⟩ :=
    completes project built nestedSettings_plain nestedSettings_ready
  obtain ⟨again, rebuilt, same⟩ := rebuilds made after completed
  obtain ⟨conservative, _⟩ := missing_roots_count_as_empty
    ⟨after, completed.steps.wellFormed oneSourceProject.wellFormed⟩ (.ofString ".") nestedSettings
    (completed.steps.unlinked oneSourceProject_unlinked)
  exact ⟨project, made, after, again, built, by cbv, completed, rebuilt,
    conservative again rebuilt, same⟩

end Project

end CodeInventory
