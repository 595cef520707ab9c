import CodeInventory.Source.Labels
import CodeInventory.Source.Symbols

namespace CodeInventory.Source

structure Extractor (α : Type) where
  name : String
  extract : String → α

namespace Extractor

def symbols : Extractor SymbolSet := ⟨"symbols", classify⟩

def benchmarks : Extractor NameSet := ⟨"benchmarks", Source.benchmarks⟩

def behaviors : Extractor (List String) := ⟨"behaviors", Source.behaviors⟩

end Extractor

end CodeInventory.Source
