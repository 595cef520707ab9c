import CodeInventory.Proofs.Inventory.Sorted
import CodeInventory.Proofs.Json.RoundTrip
import CodeInventory.Proofs.Report.Items
import CodeInventory.Report.Extraction
import CodeInventory.Report.Json

namespace CodeInventory.Report

open CodeInventory.Source

structure Contents where
  header : Header
  summary : Summary
  sources : List (FileRecord SymbolSet)
  benchmarks : List (FileRecord NameSet)
  tests : List (FileRecord (List String))
  deriving DecidableEq

def fields? : Json → Option (List (String × Json))
  | .object fields => if (fields.map (·.1)).Nodup then some fields else none
  | _ => none

def nat? : Json → Option Nat
  | .number whole places => if places = 0 ∧ 0 ≤ whole then some whole.toNat else none
  | _ => none

def orderedNames? (json : Json) : Option NameSet :=
  (strings? json).bind fun names =>
    if increasing : names.Pairwise (· < ·) then some ⟨names, increasing⟩ else none

def symbolSet? (json : Json) : Option SymbolSet := do
  let fields ← fields? json
  return {
    functions := ← (fields.lookup "functions").bind orderedNames?
    classes := ← (fields.lookup "classes").bind orderedNames?
    interfaces := ← (fields.lookup "interfaces").bind orderedNames?
    types := ← (fields.lookup "types").bind orderedNames?
    constants := ← (fields.lookup "constants").bind orderedNames?
    exports := ← (fields.lookup "exports").bind orderedNames? }

def summary? (json : Json) : Option Summary := do
  let fields ← fields? json
  return {
    sourceRoot := ← (fields.lookup "source_root").bind string?
    sourceFiles := ← (fields.lookup "source_files").bind nat?
    benchmarkFiles := ← (fields.lookup "benchmark_files").bind nat?
    testFiles := ← (fields.lookup "test_files").bind nat?
    totalSymbols := ← (fields.lookup "total_symbols").bind nat?
    totalBenchmarks := ← (fields.lookup "total_benchmarks").bind nat?
    totalBehaviors := ← (fields.lookup "total_behaviors").bind nat? }

def record? {α : Type} (extraction? : Json → Option α) (json : Json) : Option (FileRecord α) := do
  let fields ← fields? json
  return {
    path := ← (fields.lookup "path").bind string?
    extraction := ← (fields.lookup "extraction").bind extraction?
    lineCount := ← (fields.lookup "line_count").bind nat?
    byteSize := ← (fields.lookup "byte_size").bind nat? }

def records? {α : Type} (extraction? : Json → Option α) : Json → Option (List (FileRecord α))
  | .array items => items.mapM (record? extraction?)
  | _ => none

def contents? (json : Json) : Option Contents := do
  let fields ← fields? json
  return {
    header := {
      title := ← (fields.lookup "title").bind string?
      generatedOn := ← (fields.lookup "generated_on").bind string? }
    summary := ← (fields.lookup "summary").bind summary?
    sources := ← (fields.lookup "sources").bind (records? symbolSet?)
    benchmarks := ← (fields.lookup "benchmarks").bind (records? orderedNames?)
    tests := ← (fields.lookup "tests").bind (records? strings?) }

theorem fields?_object {fields : List (String × Json)} (distinct : (fields.map (·.1)).Nodup) :
    fields? (.object fields) = some fields := if_pos distinct

theorem nat?_nat (n : Nat) : nat? (.nat n) = some n := by
  simp [nat?, Json.nat]

theorem strings?_strings (texts : List String) : strings? (.strings texts) = some texts := by
  have back := mapM_map_eq_some (fun text : String => (rfl : string? (.string text) = some text)) texts
  rwa [List.map_id'] at back

theorem orderedNames?_namesJson (names : NameSet) : orderedNames? (namesJson names) = some names := by
  rw [orderedNames?, namesJson, strings?_strings, Option.bind_some, dif_pos names.increasing]

theorem symbolSet?_symbolsJson (symbols : SymbolSet) :
    symbolSet? (symbolsJson symbols) = some symbols := by
  rw [symbolSet?, symbolsJson, fields?_object (by simp)]
  simp [List.lookup_cons, orderedNames?_namesJson]

theorem summary?_summaryJson (summary : Summary) : summary? (summaryJson summary) = some summary := by
  rw [summary?, summaryJson, fields?_object (by simp)]
  simp [List.lookup_cons, string?, nat?_nat]

section

variable {α : Type} {extraction : α → Json} {extraction? : Json → Option α}
  (reads : ∀ value, extraction? (extraction value) = some value)

include reads

theorem record?_recordJson (record : FileRecord α) :
    record? extraction? (recordJson extraction record) = some record := by
  rw [record?, recordJson, fields?_object (by simp)]
  simp [List.lookup_cons, string?, nat?_nat, reads]

theorem records?_recordsJson (inventory : Inventory α) :
    records? extraction? (recordsJson extraction inventory) = some inventory.sorted := by
  have back := mapM_map_eq_some (record?_recordJson reads) inventory.sorted
  rwa [List.map_id'] at back

end

theorem contents?_json (header : Header) (sources : Inventory SymbolSet) (benches : Inventory NameSet)
    (tests : Inventory (List String)) :
    contents? (json header sources benches tests) =
      some ⟨header, Summary.ofInventories sources benches tests, sources.sorted, benches.sorted,
        tests.sorted⟩ := by
  rw [contents?, json, fields?_object (by simp)]
  simp [List.lookup_cons, string?, summary?_summaryJson, records?_recordsJson symbolSet?_symbolsJson,
    records?_recordsJson orderedNames?_namesJson, records?_recordsJson strings?_strings]

/-- A section lists each record of an inventory once, in increasing order of the paths. -/
def Lists {α : Type} (records : List (FileRecord α)) (inventory : Inventory α) : Prop :=
  records.Perm inventory.records ∧ (records.map (·.path)).Pairwise (· < ·)

theorem lists_sorted {α : Type} (inventory : Inventory α) : Lists inventory.sorted inventory :=
  ⟨inventory.sorted_perm, inventory.sorted_increasing⟩

/-- Every report for programs is a JSON text, and all that went into it can be read from it. -/
theorem json_report_reads_back (header : Header) (sources : Inventory SymbolSet)
    (benches : Inventory NameSet) (tests : Inventory (List String)) :
    ∃ contents : Contents,
      (Json.read? (renderJson header sources benches tests)).bind contents? = some contents ∧
      contents.header = header ∧
      contents.summary = Summary.ofInventories sources benches tests ∧
      Lists contents.sources sources ∧ Lists contents.benchmarks benches ∧
      Lists contents.tests tests := by
  have read : (Json.read? (renderJson header sources benches tests)).bind contents? =
      some ⟨header, Summary.ofInventories sources benches tests, sources.sorted, benches.sorted,
        tests.sorted⟩ := by
    rw [renderJson, Json.read?_text, Option.bind_some, contents?_json]
  exact ⟨_, read, rfl, rfl, lists_sorted sources, lists_sorted benches, lists_sorted tests⟩

end CodeInventory.Report
