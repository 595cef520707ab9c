import CodeInventory.Proofs.Inventory.Aggregate
import CodeInventory.Proofs.Inventory.Sorted
import CodeInventory.Report.Render

namespace CodeInventory

open CodeInventory.Source

namespace Inventory

variable {α : Type} {one two : Inventory α}

structure Alike (one two : Inventory α) : Prop where
  root : one.root = two.root
  records : one.records.Perm two.records

theorem Alike.sorted (alike : Alike one two) : one.sorted = two.sorted := by
  have ordered := eq_sorted_iff.1 (rfl : one.sorted = one.sorted)
  exact eq_sorted_iff.2 ⟨ordered.1.trans alike.records, ordered.2⟩

theorem Alike.size (alike : Alike one two) : one.size = two.size := alike.records.length_eq

theorem Alike.total (alike : Alike one two) (count : α → Nat) :
    one.total count = two.total count := by
  rw [total_eq_sum, total_eq_sum, alike.sorted]

/-- What an inventory made of `records` is to its users. -/
structure Collects (inventory : Inventory α) (root : String) (records : List (FileRecord α)) :
    Prop where
  root : inventory.root = root
  size : inventory.size = records.length
  present : ∀ path record,
    inventory.get? path = some record ↔ record ∈ records ∧ record.path = path
  absent : ∀ path, inventory.get? path = none ↔ ∀ record ∈ records, record.path ≠ path
  sorted : ∀ list, list = inventory.sorted ↔
    list.Perm records ∧ (list.map fun record => Text.encode record.path).Pairwise (· < ·)

structure Aggregation (root : String) (records : List (FileRecord α)) : Prop where
  succeeds_iff : (∃ inventory, aggregate root records = .ok inventory) ↔
    (records.map (·.path)).Nodup
  fails : ¬ (records.map (·.path)).Nodup → ∃ path, FirstRepeated records path ∧
    aggregate root records = .error (.duplicatePath path)
  collects : ∀ inventory, aggregate root records = .ok inventory →
    inventory.Collects root records

theorem distinct_of_aggregate {root : String} {records : List (FileRecord α)}
    {inventory : Inventory α} (done : aggregate root records = .ok inventory) :
    (records.map (·.path)).Nodup := by
  by_contra repeats
  obtain ⟨path, first⟩ := exists_firstRepeated repeats
  rw [aggregate_of_firstRepeated root first] at done
  cases done

theorem aggregate_ok {root : String} {records : List (FileRecord α)} {inventory : Inventory α}
    (done : aggregate root records = .ok inventory) :
    inventory.root = root ∧ inventory.records.Perm records := by
  obtain ⟨found, collected, named, holds⟩ :=
    aggregate_of_distinct root records (distinct_of_aggregate done)
  rw [done] at collected
  cases collected
  exact ⟨named, holds ▸ List.reverse_perm records⟩

theorem collects_of_aggregate {root : String} {records : List (FileRecord α)}
    {inventory : Inventory α} (done : aggregate root records = .ok inventory) :
    inventory.Collects root records := by
  obtain ⟨named, permuted⟩ := aggregate_ok done
  have present : ∀ path record,
      inventory.get? path = some record ↔ record ∈ records ∧ record.path = path := by
    intro path record
    rw [get?_eq_some_iff, permuted.mem_iff]
  refine ⟨named, permuted.length_eq, present, fun path => ?_, fun list => ?_⟩
  · rw [Option.eq_none_iff_forall_ne_some]
    constructor
    · intro none record member same
      exact none record ((present path record).2 ⟨member, same⟩)
    · intro absent record found
      obtain ⟨member, same⟩ := (present path record).1 found
      exact absent record member same
  · rw [eq_sorted_iff]
    exact ⟨fun ⟨same, ordered⟩ => ⟨same.trans permuted, ordered⟩,
      fun ⟨same, ordered⟩ => ⟨same.trans permuted.symm, ordered⟩⟩

theorem aggregation (root : String) (records : List (FileRecord α)) : Aggregation root records where
  succeeds_iff := by
    constructor
    · rintro ⟨inventory, done⟩
      exact distinct_of_aggregate done
    · intro distinct
      obtain ⟨inventory, done, _⟩ := aggregate_of_distinct root records distinct
      exact ⟨inventory, done⟩
  fails := by
    intro repeats
    obtain ⟨path, first⟩ := exists_firstRepeated repeats
    exact ⟨path, first, aggregate_of_firstRepeated root first⟩
  collects _ := collects_of_aggregate

theorem aggregate_succeeds_of_perm (root : String) {records others : List (FileRecord α)}
    (permuted : records.Perm others) :
    (∃ inventory, aggregate root records = .ok inventory) ↔
      ∃ inventory, aggregate root others = .ok inventory := by
  rw [(aggregation root records).succeeds_iff, (aggregation root others).succeeds_iff]
  exact (permuted.map _).nodup_iff

theorem alike_of_perm {root : String} {records others : List (FileRecord α)}
    (permuted : records.Perm others) (first : aggregate root records = .ok one)
    (second : aggregate root others = .ok two) : Alike one two := by
  obtain ⟨rootOfOne, recordsOfOne⟩ := aggregate_ok first
  obtain ⟨rootOfTwo, recordsOfTwo⟩ := aggregate_ok second
  exact ⟨rootOfOne.trans rootOfTwo.symm, recordsOfOne.trans (permuted.trans recordsOfTwo.symm)⟩

end Inventory

section Reports

variable {sources otherSources : Inventory SymbolSet} {benches otherBenches : Inventory NameSet}
  {tests otherTests : Inventory (List String)}

theorem Summary.eq_of_alike (alikeSources : sources.Alike otherSources)
    (alikeBenches : benches.Alike otherBenches) (alikeTests : tests.Alike otherTests) :
    Summary.ofInventories sources benches tests =
      Summary.ofInventories otherSources otherBenches otherTests := by
  simp only [Summary.ofInventories, alikeSources.root, alikeSources.size, alikeBenches.size,
    alikeTests.size, alikeSources.total, alikeBenches.total, alikeTests.total]

theorem Markdown.render_eq_of_alike (header : Header) (alikeSources : sources.Alike otherSources)
    (alikeBenches : benches.Alike otherBenches) (alikeTests : tests.Alike otherTests) :
    Markdown.render header sources benches tests =
      Markdown.render header otherSources otherBenches otherTests := by
  unfold Markdown.render
  rw [Summary.eq_of_alike alikeSources alikeBenches alikeTests, alikeSources.sorted,
    alikeBenches.sorted, alikeTests.sorted, alikeSources.root, alikeBenches.root, alikeTests.root]

theorem Report.renderJson_eq_of_alike (header : Header) (alikeSources : sources.Alike otherSources)
    (alikeBenches : benches.Alike otherBenches) (alikeTests : tests.Alike otherTests) :
    Report.renderJson header sources benches tests =
      Report.renderJson header otherSources otherBenches otherTests := by
  unfold Report.renderJson Report.json Report.recordsJson
  rw [Summary.eq_of_alike alikeSources alikeBenches alikeTests, alikeSources.sorted,
    alikeBenches.sorted, alikeTests.sorted]

end Reports

theorem aggregation_ignores_record_order :
    (∀ (α : Type) (root : String) (records : List (FileRecord α)),
      Inventory.Aggregation root records) ∧
    (∀ (α : Type) (root : String) (records others : List (FileRecord α)), records.Perm others →
      ((∃ inventory, Inventory.aggregate root records = .ok inventory) ↔
        ∃ inventory, Inventory.aggregate root others = .ok inventory)) ∧
    ∀ (sourceRoot benchRoot testRoot : String) (sources otherSources : List (FileRecord SymbolSet))
      (benches otherBenches : List (FileRecord NameSet))
      (tests otherTests : List (FileRecord (List String)))
      (symbols otherSymbols : Inventory SymbolSet) (benchmarks otherBenchmarks : Inventory NameSet)
      (behaviors otherBehaviors : Inventory (List String)),
      sources.Perm otherSources → benches.Perm otherBenches → tests.Perm otherTests →
      Inventory.aggregate sourceRoot sources = .ok symbols →
      Inventory.aggregate sourceRoot otherSources = .ok otherSymbols →
      Inventory.aggregate benchRoot benches = .ok benchmarks →
      Inventory.aggregate benchRoot otherBenches = .ok otherBenchmarks →
      Inventory.aggregate testRoot tests = .ok behaviors →
      Inventory.aggregate testRoot otherTests = .ok otherBehaviors →
      (∀ header, Markdown.render header symbols benchmarks behaviors =
          Markdown.render header otherSymbols otherBenchmarks otherBehaviors) ∧
        (∀ header, Report.renderJson header symbols benchmarks behaviors =
          Report.renderJson header otherSymbols otherBenchmarks otherBehaviors) ∧
        Summary.ofInventories symbols benchmarks behaviors =
          Summary.ofInventories otherSymbols otherBenchmarks otherBehaviors := by
  refine ⟨fun _ => Inventory.aggregation, fun _ root _ _ permuted => ?_, ?_⟩
  · exact Inventory.aggregate_succeeds_of_perm root permuted
  · intro sourceRoot benchRoot testRoot sources otherSources benches otherBenches tests otherTests
      symbols otherSymbols benchmarks otherBenchmarks behaviors otherBehaviors permutedSources
      permutedBenches permutedTests ofSources ofOtherSources
      ofBenches ofOtherBenches ofTests ofOtherTests
    have alikeSources := Inventory.alike_of_perm permutedSources ofSources ofOtherSources
    have alikeBenches := Inventory.alike_of_perm permutedBenches ofBenches ofOtherBenches
    have alikeTests := Inventory.alike_of_perm permutedTests ofTests ofOtherTests
    refine ⟨fun header => ?_, fun header => ?_, ?_⟩
    · exact Markdown.render_eq_of_alike header alikeSources alikeBenches alikeTests
    · exact Report.renderJson_eq_of_alike header alikeSources alikeBenches alikeTests
    · exact Summary.eq_of_alike alikeSources alikeBenches alikeTests

/-- Paths in which the order of bytes parts from the order of components. -/
def shuffledTests : List (FileRecord (List String)) :=
  [⟨"t/é", ["b", "a"], 1, 2⟩, ⟨"t/a/b", [], 0, 0⟩, ⟨"t/a.b", ["b"], 1, 1⟩]

theorem shuffled_tests_report_alike :
    ∃ one two, Inventory.aggregate "t" shuffledTests = .ok one ∧
      Inventory.aggregate "t" shuffledTests.reverse = .ok two ∧
      (∀ header, Markdown.render header (.empty "s") (.empty "b") one =
        Markdown.render header (.empty "s") (.empty "b") two) ∧
      Inventory.aggregate "t" (shuffledTests ++ shuffledTests) = .error (.duplicatePath "t/é") := by
  obtain ⟨aggregation, alike, reports⟩ := aggregation_ignores_record_order
  have permuted := (List.reverse_perm shuffledTests).symm
  obtain ⟨one, first⟩ := (aggregation _ "t" shuffledTests).succeeds_iff.2 (by decide)
  obtain ⟨two, second⟩ := (alike _ "t" _ _ permuted).1 ⟨one, first⟩
  refine ⟨one, two, first, second, ?_, by rfl⟩
  exact (reports "s" "b" "t" [] [] [] [] _ _ _ _ _ _ one two .nil .nil permuted rfl rfl rfl rfl
    first second).1

end CodeInventory
