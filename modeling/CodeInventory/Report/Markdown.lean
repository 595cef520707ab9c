import CodeInventory.Report.Summary

namespace CodeInventory

open CodeInventory.Source

structure Header where
  title : String
  generatedOn : String
  deriving DecidableEq

namespace Markdown

def symbolSummary (symbols : SymbolSet) : String :=
  if symbols.categoryCounts = [] then "No symbols"
  else ", ".intercalate
    (symbols.categoryCounts.map fun (label, count) => toString count ++ " " ++ label)

def sourceLine (record : FileRecord SymbolSet) : String :=
  "- `" ++ record.path ++ "` - " ++ symbolSummary record.extraction ++ "\n"

def labelBlock (path noun : String) (labels : List String) : String :=
  "- `" ++ path ++ "` - " ++ toString labels.length ++ " " ++ noun ++ "\n" ++
    String.join (labels.map fun label => "  - " ++ label ++ "\n") ++ "\n"

def benchmarkBlock (record : FileRecord NameSet) : String :=
  labelBlock record.path "benchmarks" record.extraction.toList

def testBlock (record : FileRecord (List String)) : String :=
  labelBlock record.path "test behaviors" (record.extraction.mergeSort fun a b => decide (a ≤ b))

def heading (name root : String) : String := "## " ++ name ++ " (`" ++ root ++ "/`)\n\n"

def render (header : Header) (sources : Inventory SymbolSet) (benches : Inventory NameSet)
    (tests : Inventory (List String)) : String :=
  "# " ++ header.title ++ "\n\n" ++
  "Generated on: " ++ header.generatedOn ++ "\n\n" ++
  "## Summary\n\n" ++
  String.join ((Summary.ofInventories sources benches tests).lines.map fun line =>
    "- " ++ line ++ "\n") ++
  "\n" ++
  heading "Source Files" sources.root ++
  String.join (sources.sorted.map sourceLine) ++
  "\n" ++
  heading "Benchmark Files" benches.root ++
  String.join (benches.sorted.map benchmarkBlock) ++
  heading "Test Files" tests.root ++
  String.join (tests.sorted.map testBlock)

end Markdown

end CodeInventory
