import CodeInventory.FileTree.Change
import CodeInventory.Project

namespace CodeInventory

structure Generated where
  project : Project
  outputPath : Path
  report : String

def prepare (tree : FileTree) (projectRoot : Path) (settings : Settings) (generatedOn : String) :
    Traced Generated := do
  let project ← Project.build tree projectRoot settings
  let report := project.render settings.outputFormat ⟨settings.title, generatedOn⟩
  return ⟨project, settings.reportPath projectRoot, report⟩

def FileTree.writeWithParents (tree : FileTree) (path : Path) (content : String) :
    FileTree.Change :=
  let made :=
    match path.parent? with
    | some parent => tree.makeDirectories parent
    | none => (.ok (), tree)
  match made with
  | (.ok (), tree) => tree.writeFile path (Text.encode content)
  | failed => failed

/-- The tree changes only once the report is made. -/
def generate (tree : FileTree) (projectRoot : Path) (settings : Settings) (generatedOn : String) :
    Traced Generated × FileTree :=
  let prepared := prepare tree projectRoot settings generatedOn
  match prepared.result with
  | .error _ => (prepared, tree)
  | .ok generated =>
    let (written, after) := tree.writeWithParents generated.outputPath generated.report
    ({ prepared with result := (written.mapError .io).map fun _ => generated }, after)

end CodeInventory
