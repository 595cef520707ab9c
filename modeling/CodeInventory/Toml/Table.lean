import CodeInventory.Document.Value

namespace CodeInventory.Toml

open CodeInventory.Document

inductive Item where
  | value (value : Value)
  | table (implied dotted : Bool) (entries : List (String × Item))
  | tables (elements : List (List (String × Item)))

abbrev Items := List (String × Item)

namespace Items

def get? (key : String) : Items → Option Item
  | [] => none
  | (other, item) :: rest => if other = key then some item else get? key rest

/-- Keeps the place of a key that is there; a new key comes last. -/
def put (key : String) (item : Item) : Items → Items
  | [] => [(key, item)]
  | (other, old) :: rest =>
    if other = key then (key, item) :: rest else (other, old) :: put key item rest

def erase (key : String) (items : Items) : Items := items.filter fun entry => entry.1 ≠ key

end Items

structure Body where
  implied : Bool
  dotted : Bool
  entries : Items

def Body.item (body : Body) : Item := .table body.implied body.dotted body.entries

def Body.opened (entries : Items) : Body := ⟨false, false, entries⟩

/-- Applies a change to the table at the end of a path. Missing tables are made, and of an array of
tables the last one is meant. -/
def descend {α : Type} (dotted : Bool) (change : Body → Option (Body × α)) :
    List String → Body → Option (Body × α)
  | [], body => change body
  | key :: rest, body =>
    let put (item : Item) : Body := { body with entries := body.entries.put key item }
    match body.entries.get? key with
    | none =>
      (descend dotted change rest ⟨true, dotted, []⟩).map fun (inner, a) => (put inner.item, a)
    | some (.value _) => none
    | some (.table implied wasDotted entries) =>
      if dotted && !implied then none
      else (descend dotted change rest ⟨implied, wasDotted, entries⟩).map fun (inner, a) =>
        (put inner.item, a)
    | some (.tables elements) =>
      match elements.getLast? with
      | none => none
      | some last => (descend dotted change rest (.opened last)).map fun (inner, a) =>
        (put (.tables (elements.dropLast ++ [inner.entries])), a)

/-- Adds a value under a key that is new. A dotted key ends in a table of dotted keys, a plain key
never does. -/
def addValue (path : List String) (key : String) (value : Value) (body : Body) : Option Body :=
  (descend true
    (fun table =>
      if table.dotted == path.isEmpty then none
      else match table.entries.get? key with
        | some _ => none
        | none => some ({ table with entries := table.entries.put key (.value value) }, ()))
    path body).map (·.1)

inductive Statement where
  | keyValue (path : List String) (key : String) (value : Value)
  | header (path : List String) (key : String)
  | arrayHeader (path : List String) (key : String)

inductive Destination where
  | root
  | table (path : List String) (key : String)
  | element (path : List String) (key : String)

structure Builder where
  root : Body
  current : Body
  destination : Destination

namespace Builder

def start : Builder := ⟨.opened [], .opened [], .root⟩

def close (builder : Builder) : Option Body :=
  match builder.destination with
  | .root => some builder.current
  | .table path key =>
    (descend false
      (fun parent =>
        match parent.entries.get? key with
        | none | some (.table true _ _) =>
          some ({ parent with entries := parent.entries.put key builder.current.item }, ())
        | _ => none)
      path builder.root).map (·.1)
  | .element path key =>
    (descend false
      (fun parent =>
        let append (elements : List Items) : Option (Body × Unit) :=
          let item := .tables (elements ++ [builder.current.entries])
          some ({ parent with entries := parent.entries.put key item }, ())
        match parent.entries.get? key with
        | none => append []
        | some (.tables elements) => append elements
        | _ => none)
      path builder.root).map (·.1)

/-- Opens a table that is new or was only implied. One that came about as the parent of another
moves behind what was written in between. -/
def openTable (root : Body) (path : List String) (key : String) : Option Builder :=
  (descend false
    (fun parent =>
      let without : Body := { parent with entries := parent.entries.erase key }
      match parent.entries.get? key with
      | none => some (without, [])
      | some (.table true false entries) => some (without, entries)
      | _ => none)
    path root).map fun (root, entries) => ⟨root, .opened entries, .table path key⟩

def openElement (root : Body) (path : List String) (key : String) : Option Builder :=
  (descend false
    (fun parent =>
      match parent.entries.get? key with
      | none => some ({ parent with entries := parent.entries.put key (.tables []) }, ())
      | some (.tables _) => some (parent, ())
      | _ => none)
    path root).map fun (root, _) => ⟨root, .opened [], .element path key⟩

def add (builder : Builder) : Statement → Option Builder
  | .keyValue path key value =>
    (addValue path key value builder.current).map fun current => { builder with current }
  | .header path key => builder.close.bind fun root => openTable root path key
  | .arrayHeader path key => builder.close.bind fun root => openElement root path key

end Builder

mutual

def Item.toValue : Item → Value
  | .value value => value
  | .table _ _ entries => .table (entriesToValues entries)
  | .tables elements => .array (elementsToValues elements)

def entriesToValues : List (String × Item) → List (String × Value)
  | [] => []
  | (key, item) :: rest => (key, item.toValue) :: entriesToValues rest

def elementsToValues : List (List (String × Item)) → List Value
  | [] => []
  | entries :: rest => .table (entriesToValues entries) :: elementsToValues rest

end

def assemble (statements : List Statement) : Option Value :=
  (statements.foldlM Builder.add Builder.start).bind fun builder =>
    builder.close.map fun root => root.item.toValue

def addPair (body : Body) (pair : List String × String × Value) : Option Body :=
  addValue pair.1 pair.2.1 pair.2.2 body

def inlineTable (pairs : List (List String × String × Value)) : Option Value :=
  (pairs.foldlM addPair (.opened [])).map fun body => body.item.toValue

end CodeInventory.Toml
