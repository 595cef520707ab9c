import CodeInventory.Proofs.Inventory.Sorted
import CodeInventory.Proofs.Report.MarkdownLayout

namespace CodeInventory.Markdown

open CodeInventory.Report CodeInventory.Source

/-- Nothing that a report shows has a line feed. No more is asked, although nothing is escaped. -/
structure Unbroken (header : Header) (sources : Inventory SymbolSet) (benches : Inventory NameSet)
    (tests : Inventory (List String)) : Prop where
  title : OneLine header.title
  generatedOn : OneLine header.generatedOn
  sourceRoot : OneLine sources.root
  benchmarkRoot : OneLine benches.root
  testRoot : OneLine tests.root
  sources : ∀ record ∈ sources.records, OneLine record.path
  benchmarks : ∀ record ∈ benches.records,
    OneLine record.path ∧ ∀ label ∈ record.extraction.toList, OneLine label
  tests : ∀ record ∈ tests.records,
    OneLine record.path ∧ ∀ behavior ∈ record.extraction, OneLine behavior

theorem line_of_lead {lead rest : String} (starts : lead ≠ "") (first : OneLine lead)
    (second : OneLine rest) : lead ++ rest ≠ "" ∧ OneLine (lead ++ rest) :=
  ⟨by simp [starts], oneLine_append.2 ⟨first, second⟩⟩

theorem line_of_entry {path detail : String} (first : OneLine path) (second : OneLine detail) :
    entryLine path detail ≠ "" ∧ OneLine (entryLine path detail) := by
  rw [entryLine, String.append_assoc, String.append_assoc]
  apply line_of_lead (by decide) (by decide)
  exact oneLine_append.2 ⟨first, oneLine_append.2 ⟨by decide, second⟩⟩

theorem lines_of_block {noun path : String} {labels : List String} (kind : OneLine noun)
    (first : OneLine path) (others : ∀ label ∈ labels, OneLine label) :
    ∀ line ∈ block noun path labels, line ≠ "" ∧ OneLine line := by
  intro line member
  rcases List.mem_cons.1 member with rfl | member
  · apply line_of_entry first
    exact oneLine_append.2 ⟨oneLine_append.2 ⟨oneLine_toString _, by decide⟩, kind⟩
  · obtain ⟨label, listed, rfl⟩ := List.mem_map.1 member
    exact line_of_lead (by decide) (by decide) (others label listed)

theorem line_of_heading {name root : String} (first : OneLine name) (second : OneLine root) :
    headingLine name root ≠ "" ∧ OneLine (headingLine name root) := by
  refine ⟨by simp [headingLine], ?_⟩
  simp only [headingLine, oneLine_append]
  exact ⟨⟨⟨⟨by decide, first⟩, by decide⟩, second⟩, by decide⟩

theorem lines_of_summary {summary : Summary} (root : OneLine summary.sourceRoot) :
    ∀ line ∈ summary.lines, OneLine line := by
  intro line member
  simp only [Summary.lines, List.mem_cons, List.not_mem_nil, or_false] at member
  rcases member with rfl | rfl | rfl | rfl | rfl | rfl
  all_goals
    simp only [oneLine_append, oneLine_toString, root, and_true]
    decide

theorem Unbroken.lines {header : Header} {sources : Inventory SymbolSet}
    {benches : Inventory NameSet} {tests : Inventory (List String)}
    (unbroken : Unbroken header sources benches tests) :
    ∀ paragraph ∈ paragraphs header sources benches tests, ∀ line ∈ paragraph,
      line ≠ "" ∧ OneLine line := by
  intro paragraph listed
  simp only [paragraphs, List.mem_append, List.mem_cons, List.not_mem_nil, or_false, List.mem_map]
    at listed
  rcases listed with ((rfl | rfl | rfl | rfl | rfl | rfl | rfl) | ⟨record, listed, rfl⟩) |
    rfl | ⟨record, listed, rfl⟩
  · exact List.forall_mem_singleton.2 (line_of_lead (by decide) (by decide) unbroken.title)
  · exact List.forall_mem_singleton.2 (line_of_lead (by decide) (by decide) unbroken.generatedOn)
  · decide
  · intro line member
    obtain ⟨counter, listed, rfl⟩ := List.mem_map.1 member
    exact line_of_lead (by decide) (by decide) (lines_of_summary unbroken.sourceRoot counter listed)
  · exact List.forall_mem_singleton.2 (line_of_heading (by decide) unbroken.sourceRoot)
  · intro line member
    obtain ⟨record, listed, rfl⟩ := List.mem_map.1 member
    exact line_of_entry (unbroken.sources record (Inventory.mem_sorted.1 listed))
      (oneLine_symbolSummary _)
  · exact List.forall_mem_singleton.2 (line_of_heading (by decide) unbroken.benchmarkRoot)
  · obtain ⟨path, labels⟩ := unbroken.benchmarks record (Inventory.mem_sorted.1 listed)
    exact lines_of_block (by decide) path labels
  · exact List.forall_mem_singleton.2 (line_of_heading (by decide) unbroken.testRoot)
  · obtain ⟨path, behaviors⟩ := unbroken.tests record (Inventory.mem_sorted.1 listed)
    exact lines_of_block (by decide) path fun behavior member =>
      behaviors behavior (List.mem_mergeSort.1 member)

theorem primaryCounts_nonzero (counts : List (String × Nat)) :
    primaryCounts (counts.filter fun entry => entry.2 ≠ 0) = primaryCounts counts := by
  induction counts with
  | nil => rfl
  | cons entry rest ih =>
    by_cases zero : entry.2 = 0
    · rw [List.filter_cons_of_neg (by simp [zero]), ih, primaryCounts, primaryCounts, List.filter_cons]
      split
      · rw [List.map_cons, List.sum_cons, zero, Nat.zero_add]
      · rfl
    · rw [List.filter_cons_of_pos (by simp [zero])]
      simp only [primaryCounts, List.filter_cons] at ih ⊢
      split
      · rw [List.map_cons, List.map_cons, List.sum_cons, List.sum_cons, ih]
      · exact ih

theorem primaryCounts_categoryCounts (symbols : SymbolSet) :
    primaryCounts symbols.categoryCounts = symbols.primaryCount := by
  have counted (classes interfaces functions types constants : Nat) :
      primaryCounts [("classes", classes), ("interfaces", interfaces), ("functions", functions),
        ("types", types), ("constants", constants)] = classes + (interfaces + functions) := by
    simp [primaryCounts]
  rw [SymbolSet.categoryCounts, primaryCounts_nonzero, counted, SymbolSet.primaryCount]
  omega

def listing (header : Header) (sources : Inventory SymbolSet) (benches : Inventory NameSet)
    (tests : Inventory (List String)) : Listing where
  title := header.title
  generatedOn := header.generatedOn
  counters := (Summary.ofInventories sources benches tests).lines
  sourceRoot := sources.root
  sources := sources.sorted.map fun record => (record.path, record.extraction.categoryCounts)
  benchmarkRoot := benches.root
  benchmarks := benches.sorted.map fun record => (record.path, record.extraction.toList)
  testRoot := tests.root
  tests := tests.sorted.map fun record =>
    (record.path, record.extraction.mergeSort fun a b => decide (a ≤ b))

section

variable (header : Header) (sources : Inventory SymbolSet) (benches : Inventory NameSet)
  (tests : Inventory (List String))

theorem listing?_paragraphs : listing? (paragraphs header sources benches tests) =
    some (listing header sources benches tests) := by
  have counters := mapM_map_eq_some (after?_append "- ")
    (Summary.ofInventories sources benches tests).lines
  rw [List.map_id'] at counters
  have entries := mapM_map_eq_some sourceFile?_sourceEntry sources.sorted
  have benchmarkNoun : '\x60' ∉ "benchmarks".toList := by decide
  have testNoun : '\x60' ∉ "test behaviors".toList := by decide
  have benchmarks := readWhile_append
    (fun record : FileRecord NameSet =>
      block?_block benchmarkNoun record.path record.extraction.toList)
    benches.sorted (block?_headingLine "benchmarks" "Test Files" tests.root)
  have behaviors := mapM_map_eq_some
    (fun record : FileRecord (List String) =>
      block?_block testNoun record.path (record.extraction.mergeSort fun a b => decide (a ≤ b)))
    tests.sorted
  simp only [paragraphs, listing, List.cons_append, List.nil_append, listing?, guard, if_true,
    after?_append, heading?_headingLine, counters, entries, benchmarks, behaviors, List.head?_cons,
    List.tail_cons, Option.bind_eq_bind, Option.bind_some, Option.pure_def]

theorem recount_listing :
    (listing header sources benches tests).recount = Summary.ofInventories sources benches tests := by
  simp [Listing.recount, listing, Summary.ofInventories, Inventory.length_sorted,
    Inventory.total_eq_sum, NameSet.size, primaryCounts_categoryCounts, Function.comp_def]

theorem read?_render (unbroken : Unbroken header sources benches tests) :
    read? (render header sources benches tests) = some (listing header sources benches tests) := by
  rw [read?, render_eq_typeset, paragraphs?_typeset unbroken.lines, Option.bind_some,
    listing?_paragraphs]

end

theorem names_of_listed {records others : List (FileRecord NameSet)}
    (same : (records.map fun record => (record.path, record.extraction.toList)) =
      others.map fun record => (record.path, record.extraction.toList)) :
    (records.map fun record => (record.path, record.extraction)) =
      others.map fun record => (record.path, record.extraction) := by
  have names : Function.Injective NameSet.toList := by
    rintro ⟨first, _⟩ ⟨second, _⟩ rfl
    rfl
  apply List.map_injective_iff.2 (Function.Injective.prodMap Function.injective_id names)
  rw [List.map_map, List.map_map]
  exact same

/-- Sorting descriptions keeps how often each occurs. -/
theorem behaviors_of_listed {records others : List (FileRecord (List String))}
    (same : (records.map fun record =>
        (record.path, record.extraction.mergeSort fun a b => decide (a ≤ b))) =
      others.map fun record =>
        (record.path, record.extraction.mergeSort fun a b => decide (a ≤ b))) :
    (records.map fun record => (record.path, (record.extraction : Multiset String))) =
      others.map fun record => (record.path, (record.extraction : Multiset String)) := by
  have forget (behaviors : List String) :
      ((behaviors.mergeSort fun a b => decide (a ≤ b) : List String) : Multiset String) = behaviors :=
    Multiset.coe_eq_coe.2 (List.mergeSort_perm ..)
  have images := congrArg (List.map (Prod.map id ((↑) : List String → Multiset String))) same
  simpa only [List.map_map, Function.comp_def, Prod.map_apply, id, forget] using images

/-- A report can be read, its counters are those of its own lists, and reports with the same text
list the same. -/
theorem report_reads_back {header otherHeader : Header} {sources otherSources : Inventory SymbolSet}
    {benches otherBenches : Inventory NameSet} {tests otherTests : Inventory (List String)}
    (unbroken : Unbroken header sources benches tests)
    (unbrokenOther : Unbroken otherHeader otherSources otherBenches otherTests) :
    read? (render header sources benches tests) = some (listing header sources benches tests) ∧
    (listing header sources benches tests).counters =
      (listing header sources benches tests).recount.lines ∧
    (render header sources benches tests = render otherHeader otherSources otherBenches otherTests →
      header.title = otherHeader.title ∧ header.generatedOn = otherHeader.generatedOn ∧
      sources.root = otherSources.root ∧ benches.root = otherBenches.root ∧
      tests.root = otherTests.root ∧
      (sources.sorted.map fun record => (record.path, record.extraction.categoryCounts)) =
        (otherSources.sorted.map fun record => (record.path, record.extraction.categoryCounts)) ∧
      (benches.sorted.map fun record => (record.path, record.extraction)) =
        (otherBenches.sorted.map fun record => (record.path, record.extraction)) ∧
      (tests.sorted.map fun record => (record.path, (record.extraction : Multiset String))) =
        otherTests.sorted.map fun record =>
          (record.path, (record.extraction : Multiset String))) := by
  have reads := read?_render header sources benches tests unbroken
  refine ⟨reads, ?_, ?_⟩
  · rw [recount_listing]
    rfl
  · intro sameText
    have readsOther := read?_render otherHeader otherSources otherBenches otherTests unbrokenOther
    rw [sameText, readsOther] at reads
    have same := Option.some.inj reads
    simp only [listing, Listing.mk.injEq] at same
    obtain ⟨title, generatedOn, -, sourceRoot, entries, benchmarkRoot, benchmarks, testRoot,
      behaviors⟩ := same
    refine ⟨title.symm, generatedOn.symm, sourceRoot.symm, benchmarkRoot.symm, testRoot.symm,
      entries.symm, ?_, ?_⟩
    · exact names_of_listed benchmarks.symm
    · exact behaviors_of_listed behaviors.symm

/-- Paths and labels that look like entries and headings. -/
def trickySources (exported : NameSet) : Inventory SymbolSet where
  root := "s/`) #"
  records :=
    [⟨"b`", { (default : SymbolSet) with
        classes := ⟨["A"], by decide⟩, exports := exported }, 1, 11⟩,
     ⟨"`a", default, 0, 0⟩]
  distinct := by simp

def trickyBenches : Inventory NameSet where
  root := "## b"
  records := [⟨"## Test Files (`t/`)", ⟨["", "- `x` - 0 benchmarks"], by decide⟩, 2, 30⟩]
  distinct := by simp

def trickyTests (behaviors : List String) : Inventory (List String) where
  root := ""
  records := [⟨"` - No symbols", behaviors, 3, 40⟩]
  distinct := by simp

theorem tricky_reports_read_back :
    let header : Header := ⟨"# Report", "- `x`"⟩
    let sources := trickySources ∅
    let otherSources := trickySources ⟨["A"], by decide⟩
    let tests := trickyTests ["b", "-", "b"]
    let otherTests := trickyTests ["b", "b", "-"]
    Unbroken header sources trickyBenches tests ∧
    Unbroken header otherSources trickyBenches otherTests ∧
    render header sources trickyBenches tests =
      render header otherSources trickyBenches otherTests ∧
    read? (render header sources trickyBenches tests) =
      some (listing header sources trickyBenches tests) ∧
    (sources.sorted.map fun record => (record.path, record.extraction.categoryCounts)) =
      (otherSources.sorted.map fun record => (record.path, record.extraction.categoryCounts)) ∧
    (tests.sorted.map fun record => (record.path, (record.extraction : Multiset String))) =
      otherTests.sorted.map fun record =>
        (record.path, (record.extraction : Multiset String)) := by
  intro header sources otherSources tests otherTests
  have first : Unbroken header sources trickyBenches tests := by constructor <;> decide
  have second : Unbroken header otherSources trickyBenches otherTests := by constructor <;> decide
  have same : paragraphs header sources trickyBenches tests =
      paragraphs header otherSources trickyBenches otherTests := by cbv
  have sameText : render header sources trickyBenches tests =
      render header otherSources trickyBenches otherTests := by
    rw [render_eq_typeset, render_eq_typeset, same]
  obtain ⟨reads, _, equal⟩ := report_reads_back first second
  obtain ⟨_, _, _, _, _, entries, _, behaviors⟩ := equal sameText
  exact ⟨first, second, sameText, reads, entries, behaviors⟩

end CodeInventory.Markdown
