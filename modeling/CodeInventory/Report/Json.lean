import CodeInventory.Json.Printer
import CodeInventory.Report.Markdown

namespace CodeInventory.Report

open CodeInventory.Source

def summaryJson (summary : Summary) : Json :=
  .object
    [("source_root", .string summary.sourceRoot), ("source_files", .nat summary.sourceFiles),
     ("benchmark_files", .nat summary.benchmarkFiles), ("test_files", .nat summary.testFiles),
     ("total_symbols", .nat summary.totalSymbols),
     ("total_benchmarks", .nat summary.totalBenchmarks),
     ("total_behaviors", .nat summary.totalBehaviors)]

def namesJson (names : NameSet) : Json := .strings names.toList

def symbolsJson (symbols : SymbolSet) : Json :=
  .object
    [("functions", namesJson symbols.functions), ("classes", namesJson symbols.classes),
     ("interfaces", namesJson symbols.interfaces), ("types", namesJson symbols.types),
     ("constants", namesJson symbols.constants), ("exports", namesJson symbols.exports)]

def recordJson {α : Type} (extraction : α → Json) (record : FileRecord α) : Json :=
  .object
    [("path", .string record.path), ("extraction", extraction record.extraction),
     ("line_count", .nat record.lineCount), ("byte_size", .nat record.byteSize)]

def recordsJson {α : Type} (extraction : α → Json) (inventory : Inventory α) : Json :=
  .array (inventory.sorted.map (recordJson extraction))

def json (header : Header) (sources : Inventory SymbolSet) (benches : Inventory NameSet)
    (tests : Inventory (List String)) : Json :=
  .object
    [("title", .string header.title), ("generated_on", .string header.generatedOn),
     ("summary", summaryJson (Summary.ofInventories sources benches tests)),
     ("sources", recordsJson symbolsJson sources), ("benchmarks", recordsJson namesJson benches),
     ("tests", recordsJson Json.strings tests)]

def renderJson (header : Header) (sources : Inventory SymbolSet) (benches : Inventory NameSet)
    (tests : Inventory (List String)) : String :=
  (json header sources benches tests).text

end CodeInventory.Report
