import CodeInventory.Text.Utf8

namespace CodeInventory

open CodeInventory.Text

structure Path where
  bytes : Bytes
  deriving DecidableEq

inductive Component where
  | root
  | here
  | up
  | name (bytes : Bytes)
  deriving DecidableEq

def Component.text : Component → String
  | root => "/"
  | here => "."
  | up => ".."
  | name bytes => decodeLossy bytes

namespace Path

def slash : UInt8 := 0x2f

def dot : Bytes := [0x2e]

def dots : Bytes := [0x2e, 0x2e]

def segmentsOf : Bytes → List Bytes
  | [] => [[]]
  | b :: rest =>
    if b = slash then [] :: segmentsOf rest
    else match segmentsOf rest with
      | [] => [[b]]
      | first :: others => (b :: first) :: others

def ofSegments : List Bytes → Bytes
  | [] => []
  | [last] => last
  | first :: others => first ++ slash :: ofSegments others

def ofString (text : String) : Path := ⟨encode text⟩

def display (path : Path) : String := decodeLossy path.bytes

def isAbsolute (path : Path) : Bool := path.bytes.head? = some slash

def isIdle (segment : Bytes) : Bool := segment = [] || segment = dot

def component? (segment : Bytes) : Option Component :=
  if isIdle segment then none
  else if segment = dots then some .up
  else some (.name segment)

/-- Empty segments and every `.` but a leading one carry no meaning; `..` does, because the
directory before it may be a link. -/
def components (path : Path) : List Component :=
  match segmentsOf path.bytes with
  | [] => []
  | first :: rest =>
    let head :=
      if path.isAbsolute then some .root
      else if first = dot then some .here
      else component? first
    head.toList ++ rest.filterMap component?

def fileName? (path : Path) : Option Bytes :=
  match path.components.getLast? with
  | some (.name bytes) => some bytes
  | _ => none

/-- The path without its last component, spelled as far as it goes as the path is. -/
def parent? (path : Path) : Option Path :=
  match segmentsOf path.bytes with
  | [] => none
  | first :: rest =>
    match rest.reverse.dropWhile isIdle with
    | [] => if path.isAbsolute || first.isEmpty then none else some ⟨[]⟩
    | _ :: before =>
      match (before.dropWhile isIdle).reverse with
      | [] => some ⟨if path.isAbsolute then [slash] else first⟩
      | kept => some ⟨ofSegments (first :: kept)⟩

/-- An absolute path stands by itself; any other is appended with one slash between. -/
def join (base path : Path) : Path :=
  if path.isAbsolute then path
  else if base.bytes = [] ∨ base.bytes.getLast? = some slash then ⟨base.bytes ++ path.bytes⟩
  else ⟨base.bytes ++ slash :: path.bytes⟩

def componentsBelow? : List Component → List Component → Option (List Component)
  | [], path => some path
  | _ :: _, [] => none
  | b :: base, c :: path => if b = c then componentsBelow? base path else none

/-- The path without slashes at its end; of nothing but slashes one is left. -/
def withoutFinalSlashes (path : Path) : Path :=
  match path.bytes.reverse.dropWhile (· = slash) with
  | [] => ⟨path.bytes.take 1⟩
  | kept => ⟨kept.reverse⟩

end Path

end CodeInventory
