import CodeInventory.Path
import CodeInventory.Text.LowerCase

namespace CodeInventory

inductive Format where
  | markdown
  | json
  deriving DecidableEq

structure RootSettings where
  dir : String
  patterns : List String
  deriving DecidableEq

structure Settings where
  projectName : String := "Project"
  sources : RootSettings := ⟨"src", ["*.ts", "*.tsx"]⟩
  benches : RootSettings := ⟨"benches", ["*.ts"]⟩
  tests : RootSettings := ⟨"tests", ["*.ts", "*.tsx"]⟩
  allowMissingRoots : Bool := false
  followLinks : Bool := false
  outputPath : Path := .ofString "inventory.md"
  outputFormat : Format := .markdown
  deriving DecidableEq

namespace Settings

def default : Settings := {}

instance : Inhabited Settings := ⟨default⟩

def title (settings : Settings) : String := settings.projectName ++ " Inventory"

def reportPath (settings : Settings) (projectRoot : Path) : Path :=
  projectRoot.join settings.outputPath

def fileName : Path := .ofString "inventory.toml"

end Settings

end CodeInventory
