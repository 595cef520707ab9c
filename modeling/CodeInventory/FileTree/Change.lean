import CodeInventory.FileTree.Resolve

namespace CodeInventory.FileTree

open CodeInventory.Text

/-- The tree after a change, which on a failure may hold what was done before. -/
abbrev Change := Except Fault Unit × FileTree

def put (tree : FileTree) (location : Location) (node : Node) : FileTree :=
  { tree with root := node.place location tree.root }

/-- A name that is taken, even by a link that leads nowhere, is not given again. -/
def makeDirectory (tree : FileTree) (path : Path) : Change :=
  match tree.resolve .entry path.withoutFinalSlashes with
  | .error fault => (.error fault, tree)
  | .ok (.occupied _) => (.error .alreadyExists, tree)
  | .ok (.free directory name) => (.ok (), tree.put (directory ++ [name]) (.directory []))

def ensureDirectory (tree : FileTree) (path : Path) : Change :=
  match tree.makeDirectory path with
  | (.error fault, after) =>
    if tree.isDirectory path then (.ok (), after) else (.error fault, after)
  | done => done

def makeDirectoriesWithin (tree : FileTree) (path : Path) : (depth : Nat) → Change
  | 0 => (.ok (), tree)
  | depth + 1 =>
    match tree.makeDirectory path with
    | (.error .notFound, _) =>
      match path.parent? with
      | none => (.error .notFound, tree)
      | some parent =>
        match makeDirectoriesWithin tree parent depth with
        | (.ok (), above) => above.ensureDirectory path
        | failed => failed
    | _ => tree.ensureDirectory path

def makeDirectories (tree : FileTree) (path : Path) : Change :=
  tree.makeDirectoriesWithin path path.components.length

/-- Creates or replaces a regular file, through a link also one that is not there yet. -/
def writeFile (tree : FileTree) (path : Path) (content : Bytes) : Change :=
  match tree.resolve .writing path with
  | .error fault => (.error fault, tree)
  | .ok (.free directory name) => (.ok (), tree.put (directory ++ [name]) (.file content))
  | .ok (.occupied location) =>
    match tree.root.at? location with
    | some (.file _) => (.ok (), tree.put location (.file content))
    | _ => (.error .isDirectory, tree)

def makeLink (tree : FileTree) (path target : Path) : Change :=
  match tree.resolve .entry path with
  | .error fault => (.error fault, tree)
  | .ok (.occupied _) => (.error .alreadyExists, tree)
  | .ok (.free directory name) => (.ok (), tree.put (directory ++ [name]) (.link target))

def remove (tree : FileTree) (path : Path) : Change :=
  match tree.resolve .entry path with
  | .error fault => (.error fault, tree)
  | .ok (.free _ _) => (.error .notFound, tree)
  | .ok (.occupied location) => (.ok (), { tree with root := tree.root.erase location })

end CodeInventory.FileTree
