import CodeInventory.Error
import CodeInventory.Settings.Basic

namespace CodeInventory

def Format.ofName (name : String) : Except Error Format :=
  match Text.lower name with
  | "markdown" | "md" => .ok .markdown
  | "json" => .ok .json
  | other => .error (.settingsInvalid (.unknownFormat other))

structure Override where
  output : Option Path := none
  format : Option String := none
  title : Option String := none
  allowMissingRoots : Bool := false
  deriving DecidableEq

namespace Settings

def withOutput (settings : Settings) (output : Option Path) : Settings :=
  { settings with outputPath := output.getD settings.outputPath }

/-- A format that is not known leaves the output path changed and the rest as it was. -/
def override (settings : Settings) (given : Override) : Except Error Unit × Settings :=
  let settings := settings.withOutput given.output
  match given.format.mapM Format.ofName with
  | .error error => (.error error, settings)
  | .ok format =>
    (.ok (), { settings with
      outputFormat := format.getD settings.outputFormat
      projectName := given.title.getD settings.projectName
      allowMissingRoots := settings.allowMissingRoots || given.allowMissingRoots })

end Settings

end CodeInventory
