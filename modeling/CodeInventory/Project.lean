import CodeInventory.Inventory.Scan
import CodeInventory.Report.Render
import CodeInventory.Settings.Validate

namespace CodeInventory

open CodeInventory.Source

structure Project where
  sources : Inventory SymbolSet
  benches : Inventory NameSet
  tests : Inventory (List String)
  skipped : List Skipped

namespace Project

def scanRoot {α : Type} (tree : FileTree) (settings : Settings) (projectRoot : Path)
    (root : RootSettings) (extractor : Extractor α) : Traced (Scanned α) := do
  let patterns ← .ofExcept root.compile
  let scanner : Scanner := ⟨patterns, settings.followLinks, settings.allowMissingRoots⟩
  scanner.scan tree extractor (projectRoot.join (.ofString root.dir))

def build (tree : FileTree) (projectRoot : Path) (settings : Settings) : Traced Project := do
  if !tree.isDirectory projectRoot then .ofExcept (.error (.pathNotFound projectRoot))
  let sources ← scanRoot tree settings projectRoot settings.sources .symbols
  let benches ← scanRoot tree settings projectRoot settings.benches .benchmarks
  let tests ← scanRoot tree settings projectRoot settings.tests .behaviors
  return {
    sources := sources.inventory
    benches := benches.inventory
    tests := tests.inventory
    skipped := sources.skipped ++ benches.skipped ++ tests.skipped }

def summary (project : Project) : Summary :=
  .ofInventories project.sources project.benches project.tests

def render (project : Project) (format : Format) (header : Header) : String :=
  Report.render format header project.sources project.benches project.tests

end Project

end CodeInventory
