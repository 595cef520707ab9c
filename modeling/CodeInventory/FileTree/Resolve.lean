import CodeInventory.FileTree.Node

namespace CodeInventory.FileTree

open CodeInventory.Text

inductive Fault where
  | notFound
  | alreadyExists
  | notDirectory
  | isDirectory
  | nameTooLong
  | tooManyLinks
  | zeroByte
  | notText
  deriving DecidableEq

def Fault.message : Fault → String
  | notFound => "No such file or directory (os error 2)"
  | alreadyExists => "File exists (os error 17)"
  | notDirectory => "Not a directory (os error 20)"
  | isDirectory => "Is a directory (os error 21)"
  | nameTooLong => "File name too long (os error 36)"
  | tooManyLinks => "Too many levels of symbolic links (os error 40)"
  | zeroByte => "file name contained an unexpected NUL byte"
  | notText => "stream did not contain valid UTF-8"

inductive Place where
  | occupied (location : Location)
  | free (directory : Location) (name : Name)
  deriving DecidableEq

/-- What a path is resolved for: the entry it ends in, even if that is a link; what it leads to; or
a file to be written there. -/
inductive Purpose where
  | entry
  | target
  | writing
  deriving DecidableEq

def linkLimit : Nat := 40

def nameLimit : Nat := 255

/-- The bytes a path may have; what links add to it does not count. -/
def pathLimit : Nat := 4095

def origin (path : Path) (here : Location) : Location := if path.isAbsolute then [] else here

/-- Follows segments from the directory `here`. Links are followed as they are met; `..` goes up
from where the links have led, not from where the path is written. Only a directory may have a
slash after its name, so no file is written there. -/
def descend (tree : FileTree) (purpose : Purpose) (links : Nat) (here : Location) :
    List Bytes → Except Fault Place
  | [] => .ok (.occupied here)
  | segment :: rest =>
    if Path.isIdle segment then descend tree purpose links here rest
    else if segment = Path.dots then descend tree purpose links here.dropLast rest
    else if purpose = .writing ∧ rest ≠ [] ∧ rest.all (· = []) then .error .isDirectory
    else if nameLimit < segment.length then .error .nameTooLong
    else match tree.root.at? (here ++ [segment]) with
      | none => if rest = [] then .ok (.free here segment) else .error .notFound
      | some (.directory _) => descend tree purpose links (here ++ [segment]) rest
      | some (.file _) =>
        if rest = [] then .ok (.occupied (here ++ [segment])) else .error .notDirectory
      | some (.link target) =>
        if rest = [] ∧ purpose = .entry then .ok (.occupied (here ++ [segment]))
        else if target.bytes = [] then .error .notFound
        else match links with
          | 0 => .error .tooManyLinks
          | links + 1 =>
            descend tree purpose links (origin target here)
              (Path.segmentsOf target.bytes ++ rest)
termination_by segments => (links, segments.length)

def resolve (tree : FileTree) (purpose : Purpose) (path : Path) : Except Fault Place :=
  if path.bytes = [] then .error .notFound
  else if path.bytes.contains 0 then .error .zeroByte
  else if pathLimit < path.bytes.length then .error .nameTooLong
  else descend tree purpose linkLimit (origin path tree.workingDirectory)
    (Path.segmentsOf path.bytes)

def locate (tree : FileTree) (path : Path) : Except Fault Location :=
  match tree.resolve .target path with
  | .ok (.occupied location) => .ok location
  | .ok (.free _ _) => .error .notFound
  | .error fault => .error fault

def nodeAt? (tree : FileTree) (path : Path) : Option Node :=
  match tree.locate path with
  | .ok location => tree.root.at? location
  | .error _ => none

def pathExists (tree : FileTree) (path : Path) : Bool := (tree.nodeAt? path).isSome

def isDirectory (tree : FileTree) (path : Path) : Bool :=
  match tree.nodeAt? path with
  | some (.directory _) => true
  | _ => false

def readBytes (tree : FileTree) (path : Path) : Except Fault Bytes :=
  match tree.locate path with
  | .error fault => .error fault
  | .ok location =>
    match tree.root.at? location with
    | some (.file content) => .ok content
    | some (.directory _) => .error .isDirectory
    | _ => .error .notFound

def readText (tree : FileTree) (path : Path) : Except Fault String :=
  match tree.readBytes path with
  | .error fault => .error fault
  | .ok content =>
    match decode? content with
    | some text => .ok text
    | none => .error .notText

end CodeInventory.FileTree
