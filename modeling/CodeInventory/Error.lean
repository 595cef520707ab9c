import CodeInventory.FileTree.Walk
import CodeInventory.Glob.Pattern
import CodeInventory.Settings.Fault

namespace CodeInventory

inductive Error where
  | io (fault : FileTree.Fault)
  | settingsSyntax
  | settingsData (fault : Settings.DecodeFault)
  | settingsInvalid (fault : Settings.ValidationFault)
  | pathNotFound (path : Path)
  | unreadable (path : Path) (fault : FileTree.Fault)
  | duplicatePath (key : String)
  | badPattern (error : Glob.PatternError)
  | walk (error : FileTree.WalkError)

namespace Error

def settingsHeading : String := "Failed to parse config file: "

def message : Error → String
  | io fault => "IO error: " ++ fault.message
  | settingsSyntax => settingsHeading
  | settingsData fault => settingsHeading ++ fault.message
  | settingsInvalid fault => "Config validation error: " ++ fault.message
  | pathNotFound path => "Path not found: " ++ path.display
  | unreadable path fault => "Failed to read " ++ path.display ++ ": " ++ fault.message
  | duplicatePath key => "Duplicate inventory path: " ++ key
  | badPattern error => "Glob pattern error: " ++ error.message
  | walk error => "Directory walk error: " ++ error.message

end Error

end CodeInventory
