import CodeInventory.Proofs.FileTree.Trails
import CodeInventory.Proofs.Inventory.Accounting
import CodeInventory.Proofs.Text.Bytes

namespace CodeInventory.Scanner

open CodeInventory.FileTree CodeInventory.Path CodeInventory.Source CodeInventory.Text

variable {α : Type} {tree : FileTree} {extractor : Extractor α} {root : Path}
  {names others : Location}

def leadOf (root : Path) : List Component :=
  if root.parent?.isSome then root.components.getLast?.toList else []

theorem leadOf_of_name {name : Name} (named : root.fileName? = some name) :
    leadOf root = [.name name] := by
  obtain ⟨parent, up⟩ := exists_parent named
  rw [leadOf, up, components_of_fileName? named, List.getLast?_concat]
  rfl

theorem components_base_append (root : Path) :
    (root.parent?.getD root).components ++ leadOf root = root.components := by
  cases up : root.parent? with
  | none => simp [leadOf, up]
  | some parent =>
    rw [leadOf, up, Option.getD_some, components_parent up, Option.isSome_some, if_pos rfl]
    rcases List.eq_nil_or_concat root.components with empty | ⟨front, last, split⟩
    · simp [empty]
    · simp [split]

theorem componentsBelow?_pathBelow (nonempty : root.bytes ≠ [])
    (valid : ∀ name ∈ names, NameValid name) :
    componentsBelow? (root.parent?.getD root).components (pathBelow root names).components =
      some (leadOf root ++ names.map .name) := by
  rw [componentsBelow?_eq_some_iff, components_pathBelow nonempty valid, ← List.append_assoc,
    components_base_append]

theorem keyOf_pathBelow (nonempty : root.bytes ≠ []) (valid : ∀ name ∈ names, NameValid name) :
    keyOf root (pathBelow root names) =
      "/".intercalate ((leadOf root).map Component.text ++ names.map decodeLossy) := by
  rw [keyOf, relativeKey, componentsBelow?_pathBelow nonempty valid, Option.getD_some,
    List.map_append, List.map_map]
  rfl

def IsText (name : Name) : Prop := ∃ text, name = encode text

theorem IsText.noSlash {name : Name} (isText : IsText name) (valid : NameValid name) :
    '/' ∉ (decodeLossy name).toList := by
  obtain ⟨text, rfl⟩ := isText
  rw [decodeLossy_encode]
  intro member
  exact valid.noSlash ((asciiByte_mem_encode (c := '/') (by decide)).2 member)

theorem IsText.decodeLossy_inj {name other : Name} (isText : IsText name) (isOther : IsText other)
    (same : decodeLossy name = decodeLossy other) : name = other := by
  obtain ⟨text, rfl⟩ := isText
  obtain ⟨alternative, rfl⟩ := isOther
  rw [decodeLossy_encode, decodeLossy_encode] at same
  rw [same]

theorem splitOn_intercalate_names (valid : ∀ name ∈ names, NameValid name)
    (isText : ∀ name ∈ names, IsText name) (deeper : names ≠ []) :
    List.splitOn '/' ("/".intercalate (names.map decodeLossy)).toList =
      names.map fun name => (decodeLossy name).toList := by
  rw [String.toList_intercalate, List.map_map]
  refine List.splitOn_intercalate '/' ?_ (by simpa using deeper)
  intro piece member
  obtain ⟨name, inside, rfl⟩ := List.mem_map.1 member
  exact (isText name inside).noSlash (valid name inside)

theorem eq_of_map_decodeLossy (isText : ∀ name ∈ names, IsText name)
    (isOther : ∀ name ∈ others, IsText name)
    (same : (names.map fun name => (decodeLossy name).toList) =
      others.map fun name => (decodeLossy name).toList) : names = others := by
  induction names generalizing others with
  | nil => simpa using same.symm
  | cons name rest ih =>
    cases others with
    | nil => cases same
    | cons other more =>
      obtain ⟨first, later⟩ := List.forall_mem_cons.1 isText
      obtain ⟨firstOther, laterOther⟩ := List.forall_mem_cons.1 isOther
      rw [List.map_cons, List.map_cons, List.cons.injEq] at same
      rw [first.decodeLossy_inj firstOther (String.toList_inj.1 same.1),
        ih later laterOther same.2]

/-- Different names below a root have different keys, if they are text. -/
theorem keyOf_inj (nonempty : root.bytes ≠ []) (valid : ∀ name ∈ names, NameValid name)
    (validOther : ∀ name ∈ others, NameValid name) (isText : ∀ name ∈ names, IsText name)
    (isOther : ∀ name ∈ others, IsText name) (deeper : names ≠ []) (deeperOther : others ≠ [])
    (same : keyOf root (pathBelow root names) = keyOf root (pathBelow root others)) :
    names = others := by
  rw [keyOf_pathBelow nonempty valid, keyOf_pathBelow nonempty validOther] at same
  have joined : "/".intercalate (names.map decodeLossy) =
      "/".intercalate (others.map decodeLossy) := by
    by_cases unled : (leadOf root).map Component.text = []
    · rwa [unled, List.nil_append, List.nil_append] at same
    · rw [String.intercalate_append_of_ne_nil unled (by simpa using deeper),
        String.intercalate_append_of_ne_nil unled (by simpa using deeperOther)] at same
      have chars := congrArg String.toList same
      simp only [String.toList_append, List.append_cancel_left_eq] at chars
      exact String.toList_inj.1 chars
  have pieces := congrArg (fun text => List.splitOn '/' text.toList) joined
  simp only [splitOn_intercalate_names valid isText deeper,
    splitOn_intercalate_names validOther isOther deeperOther] at pieces
  exact eq_of_map_decodeLossy isText isOther pieces

end CodeInventory.Scanner
