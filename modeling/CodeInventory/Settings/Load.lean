import CodeInventory.Settings.Decode
import CodeInventory.Settings.Validate
import CodeInventory.Toml.Parser
import CodeInventory.Traced

namespace CodeInventory.Settings

def parse (document : String) : Except Error Settings :=
  match Toml.parse document with
  | none => .error .settingsSyntax
  | some value => (decode tomlDialect value).mapError .settingsData

def load (tree : FileTree) (path : Path) : Except Error Settings := do
  let document ← (tree.readText path).mapError .io
  let settings ← parse document
  settings.validate
  return settings

/-- A file that is not there counts as empty, silently; one that cannot be used as well, with a
warning. -/
def loadOrDefault (tree : FileTree) (path : Path) : List Event × Settings :=
  if tree.pathExists path then
    match load tree path with
    | .ok settings => ([], settings)
    | .error _ => ([.settingsIgnored path], default)
  else ([], default)

end CodeInventory.Settings
