import CodeInventory.Proofs.Inventory.Unlinked
import CodeInventory.Proofs.Project.Build
import CodeInventory.Proofs.Settings.Validity

namespace CodeInventory

open CodeInventory.FileTree CodeInventory.Source CodeInventory.Text

variable {projectRoot : Path} {settings : Settings} {root : RootSettings}

/-- A regular file below a root, with no link between, whose name matches a pattern of the root
and which holds this text. -/
structure RootSettings.MatchingText (root : RootSettings) (tree : FileTree) (projectRoot : Path)
    (names : Location) (content : String) : Prop where
  reached : ∃ location, tree.locate (projectRoot.join (.ofString root.dir)) = .ok location ∧
    tree.root.at? (location ++ names) = some (.file (encode content))
  selected : ∃ name, names.getLast? = some name ∧
    ∃ text ∈ root.patterns, ∃ pattern, Glob.parse text = .ok pattern ∧
      pattern.accepts (decodeLossy name) = true

theorem RootSettings.compile_any {patterns : List Glob.Pattern}
    (compiled : root.compile = .ok patterns) (test : Glob.Pattern → Bool) :
    patterns.any test = true ↔
      ∃ text ∈ root.patterns, ∃ pattern, Glob.parse text = .ok pattern ∧ test pattern = true := by
  refine Glob.parseAll_any ?_ test
  unfold compile at compiled
  cases parsed : Glob.parseAll root.patterns with
  | error error =>
    rw [parsed] at compiled
    cases compiled
  | ok found =>
    rw [parsed] at compiled
    cases compiled
    rfl

theorem wanted_iff_matchingText {tree : FileTree} {scanner : Scanner} {names : Location}
    {content : String} (compiled : root.compile = .ok scanner.patterns) :
    scanner.Wanted tree (projectRoot.join (.ofString root.dir)) names content ↔
      root.MatchingText tree projectRoot names content := by
  constructor
  · rintro ⟨reached, name, last, selected⟩
    exact ⟨reached, name, last, (root.compile_any compiled _).1 selected⟩
  · rintro ⟨reached, name, last, selected⟩
    exact ⟨reached, name, last, (root.compile_any compiled _).2 selected⟩

namespace Project

theorem scanRoot_inventory_eq {α : Type} {extractor : Extractor α} {first second : SoundTree}
    {one two : Scanned α} (unfollowed : settings.followLinks = false)
    (scannedFirst : (scanRoot first settings projectRoot root extractor).result = .ok one)
    (scannedSecond : (scanRoot second settings projectRoot root extractor).result = .ok two)
    (same : ∀ names content, root.MatchingText first projectRoot names content ↔
      root.MatchingText second projectRoot names content) :
    one.inventory = two.inventory := by
  obtain ⟨patterns, compiled, doneFirst⟩ := scanRoot_ok scannedFirst
  obtain ⟨others, compiledAgain, doneSecond⟩ := scanRoot_ok scannedSecond
  obtain rfl : patterns = others := by
    rw [compiled] at compiledAgain
    exact Except.ok.inj compiledAgain
  have inventoryFirst := Scanner.scan_inventory unfollowed doneFirst
  have inventorySecond := Scanner.scan_inventory unfollowed doneSecond
  let scanner : Scanner := ⟨patterns, settings.followLinks, settings.allowMissingRoots⟩
  let path := projectRoot.join (.ofString root.dir)
  have files : scanner.wanted first path = scanner.wanted second path := by
    refine Scanner.wanted_eq fun names content => ?_
    rw [wanted_iff_matchingText compiled, wanted_iff_matchingText compiled, same]
  rw [files, inventorySecond] at inventoryFirst
  exact (Except.ok.inj inventoryFirst).symm

theorem reports_depend_on_matching_texts (settings : Settings) (projectRoot : Path)
    (first second : SoundTree) (one two : Project) (unfollowed : settings.followLinks = false)
    (builtFirst : (build first projectRoot settings).result = .ok one)
    (builtSecond : (build second projectRoot settings).result = .ok two)
    (same : ∀ root ∈ [settings.sources, settings.benches, settings.tests], ∀ names content,
      root.MatchingText first projectRoot names content ↔
        root.MatchingText second projectRoot names content) :
    (∀ format header, one.render format header = two.render format header) ∧
      one.summary = two.summary := by
  obtain ⟨sources, benches, tests, ofSources, ofBenches, ofTests, rfl⟩ := build_ok builtFirst
  obtain ⟨otherSources, otherBenches, otherTests, ofOtherSources, ofOtherBenches, ofOtherTests,
    rfl⟩ := build_ok builtSecond
  have sameSources : sources.inventory = otherSources.inventory :=
    scanRoot_inventory_eq unfollowed ofSources ofOtherSources (same _ (by simp))
  have sameBenches : benches.inventory = otherBenches.inventory :=
    scanRoot_inventory_eq unfollowed ofBenches ofOtherBenches (same _ (by simp))
  have sameTests : tests.inventory = otherTests.inventory :=
    scanRoot_inventory_eq unfollowed ofTests ofOtherTests (same _ (by simp))
  rw [sameSources, sameBenches, sameTests]
  exact ⟨fun _ _ => rfl, rfl⟩

theorem matchingText_iff_of_wanted (patterns : List Glob.Pattern) {first second : SoundTree}
    (compiled : root.compile = .ok patterns)
    (same : Scanner.wanted ⟨patterns, false, false⟩ first (projectRoot.join (.ofString root.dir)) =
      Scanner.wanted ⟨patterns, false, false⟩ second (projectRoot.join (.ofString root.dir)))
    (names : Location) (content : String) :
    root.MatchingText first projectRoot names content ↔
      root.MatchingText second projectRoot names content := by
  let scanner : Scanner := ⟨patterns, false, false⟩
  have member : ∀ tree : SoundTree,
      (root.MatchingText tree projectRoot names content ↔
        (names, encode content) ∈ scanner.wanted tree (projectRoot.join (.ofString root.dir))) := by
    intro tree
    have compiled : root.compile = .ok scanner.patterns := compiled
    rw [← wanted_iff_matchingText compiled, Scanner.mem_wanted_iff]
    simp [encode_inj]
  rw [member first, member second, same]

/-- A root with one text and, unless it is `plain`, a file of the same lossy name that holds no
text, a link to the text and a directory with a file of another name. -/
def sampleTree (plain : Bool) : SoundTree := .ofEdits
  ([.makeDirectories (.ofString "src"),
      .writeFile ((Path.ofString "src").join ⟨[0x61, 0xff]⟩) (encode "x")] ++
    if plain then []
    else [.writeFile ((Path.ofString "src").join ⟨[0x61, 0xfe]⟩) [0xff],
      .makeLink (.ofString "src/b") ⟨[0x61, 0xff]⟩, .makeDirectories (.ofString "src/c"),
      .writeFile (.ofString "src/c/d") []])

def sampleSettings : Settings := { sources := ⟨"src", ["a*"]⟩, allowMissingRoots := true }

theorem reports_ignore_undecodable_twin :
    ∃ one two,
      (build (sampleTree false) (.ofString ".") sampleSettings).result = .ok one ∧
      (build (sampleTree true) (.ofString ".") sampleSettings).result = .ok two ∧
      (∀ format header, one.render format header = two.render format header) ∧
      one.summary = two.summary := by
  have okFirst : (build (sampleTree false) (.ofString ".") sampleSettings).result.isOk = true := by
    cbv
  have okSecond : (build (sampleTree true) (.ofString ".") sampleSettings).result.isOk = true := by
    cbv
  obtain ⟨one, builtFirst⟩ := Traced.result_of_isOk okFirst
  obtain ⟨two, builtSecond⟩ := Traced.result_of_isOk okSecond
  refine ⟨one, two, builtFirst, builtSecond, ?_⟩
  refine reports_depend_on_matching_texts sampleSettings (.ofString ".") (sampleTree false)
    (sampleTree true) one two rfl builtFirst builtSecond ?_
  simp only [List.forall_mem_cons]
  refine ⟨?_, ?_, ?_, by simp⟩
  · exact matchingText_iff_of_wanted [[.literal 'a', .anySequence]] (by cbv) (by cbv)
  · exact matchingText_iff_of_wanted _ (RootSettings.compile_scripts _) (by cbv)
  · exact matchingText_iff_of_wanted _ (RootSettings.compile_markups _) (by cbv)

end Project

end CodeInventory
