import CodeInventory.Glob.Match
import CodeInventory.Inventory.Basic
import CodeInventory.Inventory.Key
import CodeInventory.Source.Extractor
import CodeInventory.Traced

namespace CodeInventory

open CodeInventory.FileTree CodeInventory.Source

structure Scanner where
  patterns : List Glob.Pattern
  followLinks : Bool := false
  allowMissingRoot : Bool := false

structure Skipped where
  path : Path
  cause : Error

def Skipped.reason (skipped : Skipped) : String := skipped.cause.message

structure Scanned (α : Type) where
  inventory : Inventory α
  skipped : List Skipped

structure Discovery where
  files : List Path
  failures : List WalkError

namespace Scanner

variable {α : Type}

def selects (scanner : Scanner) (path : Path) : Bool :=
  match path.fileName? with
  | none => false
  | some name => scanner.patterns.any (·.accepts (Text.decodeLossy name))

def discover (scanner : Scanner) (visits : List Visit) : Discovery where
  files := visits.filterMap fun
    | .file path => if scanner.selects path then some path else none
    | .failed _ => none
  failures := visits.filterMap fun
    | .file _ => none
    | .failed error => some error

def openRoot? (tree : FileTree) (root : Path) : Option (Location × Entries) :=
  match tree.locate root with
  | .error _ => none
  | .ok location =>
    match tree.root.at? location with
    | some (.directory entries) => some (location, entries)
    | _ => none

def recordOf (tree : FileTree) (extractor : Extractor α) (base path : Path) :
    Except Error (FileRecord α) :=
  match tree.readText path with
  | .error fault => .error (.unreadable path fault)
  | .ok content => .ok (.ofText (path.relativeKey base) content (extractor.extract content))

/-- What becomes of each file. Only a file that became a record holds its key against later ones. -/
def examine (tree : FileTree) (extractor : Extractor α) (base : Path) (taken : List String) :
    List Path → List (Path × Except Error (FileRecord α))
  | [] => []
  | path :: rest =>
    match recordOf tree extractor base path with
    | .error error => (path, .error error) :: examine tree extractor base taken rest
    | .ok record =>
      if record.path ∈ taken then
        (path, .error (.duplicatePath record.path)) :: examine tree extractor base taken rest
      else (path, .ok record) :: examine tree extractor base (record.path :: taken) rest

def recordsOf (examined : List (Path × Except Error (FileRecord α))) : List (FileRecord α) :=
  examined.filterMap fun file => file.2.toOption

def skippedOf (examined : List (Path × Except Error (FileRecord α))) : List Skipped :=
  examined.filterMap fun file =>
    match file.2 with
    | .error cause => some ⟨file.1, cause⟩
    | .ok _ => none

def scan (scanner : Scanner) (tree : FileTree) (extractor : Extractor α) (root : Path) :
    Traced (Scanned α) :=
  match openRoot? tree root with
  | none =>
    if scanner.allowMissingRoot then ⟨[.rootMissing root], .ok ⟨.empty root.rootLabel, []⟩⟩
    else ⟨[], .error (.pathNotFound root)⟩
  | some (location, entries) => do
    let visits := tree.walkEntries scanner.followLinks ⟨location, root⟩ [] entries
    let found := scanner.discover visits
    .log (found.failures.map fun error => .entrySkipped error.path)
    .log [.rootScanned root found.files.length extractor.name]
    let examined := examine tree extractor (root.parent?.getD root) [] found.files
    let skipped := skippedOf examined
    .log (skipped.map fun file => .fileSkipped file.path)
    let inventory ← .ofExcept (Inventory.aggregate root.rootLabel (recordsOf examined))
    return ⟨inventory, found.failures.map (fun error => ⟨error.path, .walk error⟩) ++ skipped⟩

end Scanner

end CodeInventory
