import CodeInventory.Inventory.Basic
import CodeInventory.Source.Symbols

namespace CodeInventory

open CodeInventory.Source

structure Summary where
  sourceRoot : String
  sourceFiles : Nat
  benchmarkFiles : Nat
  testFiles : Nat
  totalSymbols : Nat
  totalBenchmarks : Nat
  totalBehaviors : Nat
  deriving DecidableEq

namespace Summary

def ofInventories (sources : Inventory SymbolSet) (benches : Inventory NameSet)
    (tests : Inventory (List String)) : Summary where
  sourceRoot := sources.root
  sourceFiles := sources.size
  benchmarkFiles := benches.size
  testFiles := tests.size
  totalSymbols := sources.total (·.primaryCount)
  totalBenchmarks := benches.total (·.size)
  totalBehaviors := tests.total (·.length)

def lines (summary : Summary) : List String :=
  ["Source files: " ++ toString summary.sourceFiles,
   "Benchmark files: " ++ toString summary.benchmarkFiles,
   "Test files: " ++ toString summary.testFiles,
   "Total symbols in " ++ summary.sourceRoot ++ "/: " ++ toString summary.totalSymbols,
   "Total benchmarks: " ++ toString summary.totalBenchmarks,
   "Total test behaviors: " ++ toString summary.totalBehaviors]

def text (summary : Summary) : String := "\n".intercalate summary.lines

end Summary

end CodeInventory
