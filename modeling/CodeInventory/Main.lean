import CodeInventory.CommandLine.Run
import Std.Time

namespace CodeInventory.Main

open CodeInventory.FileTree CodeInventory.CommandLine

def locationOf (path : String) : Location :=
  (Path.ofString path).components.filterMap fun
    | .name bytes => some bytes
    | _ => none

def graft (new : Node) : Location → Node → Node
  | [], _ => new
  | name :: rest, .directory entries =>
    let inner := (Entries.get? name entries).getD (.directory [])
    .directory (Entries.put name (graft new rest inner) entries)
  | _, other => other

def realPath? (path : String) : IO (Option String) := do
  try return some (← IO.FS.realPath path).toString catch _ => return none

/-- A link is kept with the final path it leads to. One that leads nowhere has an empty target. -/
def captureLink (path : String) : IO Node := do
  return .link (.ofString ((← realPath? path).getD ""))

def captureFile (path : String) : IO Node := do return .file (← IO.FS.readBinFile path).toList

/-- A file, or a directory with all below it. What is neither, nor a link, is left out. -/
partial def capture (path : String) : IO Node := do
  let here ← IO.FS.realPath path
  if !(← here.isDir) then return ← captureFile path
  let mut entries : Entries := []
  for entry in ← here.readDir do
    let inner := entry.path.toString
    let node? ← match (← entry.path.symlinkMetadata).type with
      | .dir => some <$> capture inner
      | .symlink => some <$> captureLink inner
      | .file => some <$> captureFile inner
      | .other => pure none
    if let some node := node? then
      entries := Entries.put (Text.encode entry.fileName) node entries
  return .directory entries

structure Snapshot where
  tree : FileTree
  complete : List Location

def Snapshot.start : IO Snapshot := do
  let here := locationOf (← IO.FS.realPath ".").toString
  return ⟨⟨graft (.directory []) here (.directory []), here⟩, []⟩

def Snapshot.add (snapshot : Snapshot) (path : String) : IO Snapshot := do
  let some real ← realPath? path | return snapshot
  let location := locationOf real
  if snapshot.complete.any (·.isPrefixOf location) then return snapshot
  let tree := { snapshot.tree with root := graft (← capture real) location snapshot.tree.root }
  return ⟨tree, location :: snapshot.complete⟩

mutual

def linkTargets : Node → List String
  | .file _ => []
  | .link target => [target.display]
  | .directory entries => linkTargetsIn entries

def linkTargetsIn : List (Name × Node) → List String
  | [] => []
  | (_, node) :: rest => linkTargets node ++ linkTargetsIn rest

end

partial def Snapshot.close (snapshot : Snapshot) : IO Snapshot := do
  let after ← (linkTargets snapshot.tree.root).foldlM Snapshot.add snapshot
  if after.complete.length = snapshot.complete.length then return after else after.close

def rootsOf (request : Request) (settings : Settings) : List String :=
  [settings.sources, settings.benches, settings.tests].map fun root =>
    (request.projectRoot.join (.ofString root.dir)).display

def read (request : Request) : IO Snapshot := do
  let seeds := request.path :: request.config.toList
  let snapshot ← seeds.foldlM Snapshot.add (← Snapshot.start)
  let named := request.config.map Path.ofString
  match (loadSettings snapshot.tree request.projectRoot named request.override).result with
  | .error _ => return snapshot
  | .ok settings =>
    let snapshot ← (rootsOf request settings).foldlM Snapshot.add snapshot
    if settings.followLinks then snapshot.close else return snapshot

def write (generated : Generated) : IO Unit := do
  if let some parent := generated.outputPath.parent? then
    if parent.bytes ≠ [] then IO.FS.createDirAll parent.display
  IO.FS.writeFile generated.outputPath.display generated.report

def report (ending : Ending) : IO UInt32 := do
  for event in ending.events do
    if event.isWarning then IO.eprintln ("WARN " ++ event.message ++ ": " ++ event.path.display)
  if let some generated := ending.generated then write generated
  IO.print ending.printed
  if let some error := ending.failure then IO.eprintln ("Error: " ++ error.message)
  return ending.exitCode.toUInt32

def usage : String :=
  "Usage: inventory generate [PATH] [-o|--output FILE] [-c|--config FILE] [--format FORMAT]\n" ++
  "                          [--title NAME] [--allow-missing-roots] [-v|--verbose]\n" ++
  "       inventory version\n"

def runOnDisk (request : Request) : IO UInt32 := do
  try
    let today ← Std.Time.PlainDate.now
    report (runRequest (← read request).tree today.toSQLDateString request)
  catch refusal =>
    IO.eprintln ("Error: IO error: " ++ refusal.toString)
    return 1

def run (arguments : List String) : IO UInt32 := do
  match CommandLine.parse arguments with
  | .ok (.generate request) => runOnDisk request
  | .ok .version | .error .displayVersion =>
    IO.print versionText
    return 0
  | .error .displayHelp =>
    IO.print usage
    return 0
  | .error _ =>
    IO.eprint usage
    return 2

end CodeInventory.Main

def main (arguments : List String) : IO UInt32 := CodeInventory.Main.run arguments
