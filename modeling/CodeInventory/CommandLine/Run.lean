import CodeInventory.CommandLine.Arguments
import CodeInventory.Generate
import CodeInventory.Settings.Load
import CodeInventory.Settings.Override

namespace CodeInventory.CommandLine

def versionText : String := "inventory 0.1.0\n"

def loadSettings (tree : FileTree) (projectRoot : Path) (named : Option Path) (given : Override) :
    Traced Settings := do
  let base ←
    match named with
    | some path => .ofExcept (Settings.load tree path)
    | none =>
      let (events, settings) := Settings.loadOrDefault tree (projectRoot.join Settings.fileName)
      Traced.log events
      pure settings
  let (outcome, settings) := base.override given
  .ofExcept outcome
  .ofExcept settings.validate
  return settings

def Request.projectRoot (request : Request) : Path := .ofString request.path

def Request.override (request : Request) : Override where
  output := request.output.map .ofString
  format := request.format
  title := request.title
  allowMissingRoots := request.allowMissingRoots

def lines (texts : List String) : String := String.join (texts.map (· ++ "\n"))

def formatName : Format → String
  | .markdown => "Markdown"
  | .json => "Json"

def rootLine (noun : String) (root : RootSettings) : String :=
  noun ++ ": " ++ root.dir ++ " " ++ Text.quotedList root.patterns

def settingsText (projectRoot : Path) (settings : Settings) : String :=
  lines
    ["Project root: " ++ projectRoot.display,
     rootLine "Sources" settings.sources,
     rootLine "Benchmarks" settings.benches,
     rootLine "Tests" settings.tests,
     "Output: " ++ (settings.reportPath projectRoot).display,
     "Format: " ++ formatName settings.outputFormat]

/-- Skipped files that are named; the others are only counted. -/
def skippedShown : Nat := 5

def skippedText (skipped : List Skipped) : String :=
  if skipped = [] then ""
  else
    lines (["", "Skipped files (" ++ toString skipped.length ++ "):"] ++
      (skipped.take skippedShown).map fun file =>
        "  " ++ file.path.display ++ ": " ++ file.reason) ++
    if skipped.length ≤ skippedShown then ""
    else lines ["  ... and " ++ toString (skipped.length - skippedShown) ++ " more"]

def generatedText (generated : Generated) : String :=
  lines ["Inventory generated: " ++ generated.outputPath.display] ++
    skippedText generated.project.skipped ++
    lines (["", "Summary:"] ++ generated.project.summary.lines.map ("  " ++ ·))

structure Ending where
  printed : String := ""
  failure : Option Error := none
  generated : Option Generated := none
  events : List Event := []
  tree : FileTree

def Ending.exitCode (ending : Ending) : Nat := if ending.failure.isSome then 1 else 0

def runSettled (tree : FileTree) (today : String) (request : Request) (settings : Settings) :
    Ending :=
  let projectRoot := request.projectRoot
  let opening :=
    (if request.verbose then settingsText projectRoot settings else "") ++
      lines ["Generating " ++ settings.title ++ "..."]
  let (generated, after) := generate tree projectRoot settings today
  match generated.result with
  | .error error =>
    { printed := opening, failure := some error, events := generated.events, tree := after }
  | .ok result =>
    { printed := opening ++ generatedText result, generated := some result,
      events := generated.events, tree := after }

def runRequest (tree : FileTree) (today : String) (request : Request) : Ending :=
  if !tree.pathExists request.projectRoot then
    { failure := some (.pathNotFound request.projectRoot), tree }
  else
    let named := request.config.map Path.ofString
    let loaded := loadSettings tree request.projectRoot named request.override
    match loaded.result with
    | .error error => { failure := some error, events := loaded.events, tree }
    | .ok settings =>
      let ending := runSettled tree today request settings
      { ending with events := loaded.events ++ ending.events }

def runCommand (tree : FileTree) (today : String) : Command → Ending
  | .version => { printed := versionText, tree }
  | .generate request => runRequest tree today request

end CodeInventory.CommandLine
