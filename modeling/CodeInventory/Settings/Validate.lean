import CodeInventory.Error
import CodeInventory.Glob.Parser
import CodeInventory.Settings.Basic
import CodeInventory.Text.Blank

namespace CodeInventory

def RootSettings.compile (root : RootSettings) : Except Error (List Glob.Pattern) :=
  (Glob.parseAll root.patterns).mapError .badPattern

namespace Settings

def validateRoot (part : Section) (root : RootSettings) : Except Error Unit :=
  if Text.allBlank root.dir then .error (.settingsInvalid (.emptyDir part))
  else if root.patterns = [] then .error (.settingsInvalid (.noPatterns part))
  else root.compile.map fun _ => ()

def validate (settings : Settings) : Except Error Unit := do
  validateRoot .sources settings.sources
  validateRoot .benches settings.benches
  validateRoot .tests settings.tests
  if settings.outputPath.bytes = [] then throw (.settingsInvalid .emptyOutputPath)

end Settings

end CodeInventory
