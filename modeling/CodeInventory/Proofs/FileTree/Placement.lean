import CodeInventory.Proofs.FileTree.Resolution

namespace CodeInventory.FileTree

open CodeInventory.Path CodeInventory.Text

inductive Kind where
  | file (content : Bytes)
  | link (target : Path)
  | directory
  deriving DecidableEq

def Node.kind : Node → Kind
  | .file content => .file content
  | .link target => .link target
  | .directory _ => .directory

def kindAt? (tree : FileTree) (location : Location) : Option Kind :=
  (tree.root.at? location).map Node.kind

theorem Node.kind_eq_directory {node : Node} (kind : node.kind = .directory) :
    ∃ entries, node = .directory entries := by
  cases node with
  | file content => cases kind
  | link target => cases kind
  | directory entries => exact ⟨entries, rfl⟩

theorem Node.kind_eq_file {node : Node} {content : Bytes} (kind : node.kind = .file content) :
    node = .file content := by
  cases node with
  | file bytes =>
    cases kind
    rfl
  | link target => cases kind
  | directory entries => cases kind

theorem Node.kind_eq_link {node : Node} {target : Path} (kind : node.kind = .link target) :
    node = .link target := by
  cases node with
  | file bytes => cases kind
  | link other =>
    cases kind
    rfl
  | directory entries => cases kind

theorem kindAt?_eq_some {tree : FileTree} {location : Location} {kind : Kind}
    (found : tree.kindAt? location = some kind) :
    ∃ node, tree.root.at? location = some node ∧ node.kind = kind := Option.map_eq_some_iff.1 found

theorem kindAt?_of_at? {tree : FileTree} {location : Location} {node : Node}
    (found : tree.root.at? location = some node) : tree.kindAt? location = some node.kind := by
  rw [kindAt?, found]
  rfl

theorem kindAt?_eq_none {tree : FileTree} {location : Location} :
    tree.kindAt? location = none ↔ tree.root.at? location = none := Option.map_eq_none_iff

theorem kindAt?_directory {tree : FileTree} {location : Location} :
    tree.kindAt? location = some .directory ↔
      ∃ entries, tree.root.at? location = some (.directory entries) := by
  constructor
  · intro found
    obtain ⟨node, here, kind⟩ := kindAt?_eq_some found
    obtain ⟨entries, rfl⟩ := Node.kind_eq_directory kind
    exact ⟨entries, here⟩
  · rintro ⟨entries, here⟩
    exact kindAt?_of_at? here

theorem kindAt?_file {tree : FileTree} {location : Location} {content : Bytes} :
    tree.kindAt? location = some (.file content) ↔
      tree.root.at? location = some (.file content) := by
  constructor
  · intro found
    obtain ⟨node, here, kind⟩ := kindAt?_eq_some found
    exact Node.kind_eq_file kind ▸ here
  · exact kindAt?_of_at?

theorem kindAt?_link {tree : FileTree} {location : Location} {target : Path} :
    tree.kindAt? location = some (.link target) ↔
      tree.root.at? location = some (.link target) := by
  constructor
  · intro found
    obtain ⟨node, here, kind⟩ := kindAt?_eq_some found
    exact Node.kind_eq_link kind ▸ here
  · exact kindAt?_of_at?

theorem directory_above {tree : FileTree} {location below : Location} {kind : Kind}
    (found : tree.kindAt? (location ++ below) = some kind) (deeper : below ≠ []) :
    tree.kindAt? location = some .directory := by
  obtain ⟨node, here, _⟩ := kindAt?_eq_some found
  rw [at?_append] at here
  obtain ⟨upper, above, under⟩ := Option.bind_eq_some_iff.1 here
  obtain ⟨name, rest, rfl⟩ := List.exists_cons_of_ne_nil deeper
  obtain ⟨child, inside, _⟩ := Option.bind_eq_some_iff.1 under
  cases upper with
  | file content => cases inside
  | link target => cases inside
  | directory entries => exact kindAt?_of_at? above

theorem get?_put_self (name : Name) (node : Node) (entries : Entries) :
    Entries.get? name (Entries.put name node entries) = some node := by
  induction entries with
  | nil => simp [Entries.put, Entries.get?]
  | cons entry rest ih =>
    obtain ⟨other, old⟩ := entry
    rw [Entries.put]
    split
    · simp [Entries.get?]
    · rename_i different
      split
      · simp [Entries.get?]
      · rw [Entries.get?, if_neg different, ih]

theorem get?_put_other {name other : Name} (different : other ≠ name) (node : Node)
    (entries : Entries) :
    Entries.get? other (Entries.put name node entries) = Entries.get? other entries := by
  induction entries with
  | nil => simp [Entries.put, Entries.get?, Ne.symm different]
  | cons entry rest ih =>
    obtain ⟨first, old⟩ := entry
    rw [Entries.put]
    split
    · rename_i same
      simp [Entries.get?, Ne.symm different, same]
    · split
      · simp [Entries.get?, Ne.symm different]
      · rw [Entries.get?, Entries.get?, ih]

theorem place_cons {new old : Node} {name : Name} {rest : Location} {entries : Entries}
    (deeper : rest ≠ []) (found : Entries.get? name entries = some old) :
    new.place (name :: rest) (.directory entries) =
      .directory (Entries.put name (new.place rest old) entries) := by
  obtain ⟨next, more, rfl⟩ := List.exists_cons_of_ne_nil deeper
  rw [Node.place, found]
  simp

theorem place_cons_missing {new : Node} {name : Name} {rest : Location} {entries : Entries}
    (deeper : rest ≠ []) (missing : Entries.get? name entries = none) :
    new.place (name :: rest) (.directory entries) = .directory entries := by
  obtain ⟨next, more, rfl⟩ := List.exists_cons_of_ne_nil deeper
  rw [Node.place, missing]
  simp

/-- A node with nothing below it changes what is at its place and nothing else, if nothing was below
that place before. -/
theorem kind_at?_place {new old : Node} {directory other : Location} {name : Name}
    (home : (old.at? directory).map Node.kind = some .directory)
    (bare : ∀ node, old.at? (directory ++ [name]) = some node → ∀ inner, node.child? inner = none)
    (leaf : ∀ inner, new.child? inner = none) :
    ((new.place (directory ++ [name]) old).at? other).map Node.kind =
      if other = directory ++ [name] then some new.kind else (old.at? other).map Node.kind := by
  -- down to the directory: only the entry on the way to it is replaced
  induction directory generalizing old other with
  | nil =>
    obtain ⟨entries, rfl⟩ := Node.kind_eq_directory (Option.some.inj home)
    rw [List.nil_append, Node.place]
    cases other with
    | nil => simp [Node.at?, Node.kind]
    | cons first rest =>
      rw [Node.at?, Node.at?, Node.child?, Node.child?]
      by_cases same : first = name
      · subst same
        rw [get?_put_self]
        cases rest with
        | nil => simp [Node.at?]
        | cons next more =>
          have nothing : (Entries.get? first entries).bind (Node.at? (next :: more)) = none := by
            cases found : Entries.get? first entries with
            | none => rfl
            | some node =>
              have here : (Node.directory entries).at? ([] ++ [first]) = some node := by
                simp [Node.at?, Node.child?, found]
              simp [Node.at?, bare node here]
          rw [nothing]
          simp [Node.at?, leaf]
      · rw [get?_put_other same]
        simp [same]
  | cons upper lower ih =>
    cases old with
    | file content => cases home
    | link target => cases home
    | directory entries =>
      cases found : Entries.get? upper entries with
      | none => simp [Node.at?, Node.child?, found] at home
      | some child =>
        have inner : (child.at? lower).map Node.kind = some .directory := by
          simpa [Node.at?, Node.child?, found] using home
        have innerBare : ∀ node, child.at? (lower ++ [name]) = some node →
            ∀ inner, node.child? inner = none := by
          intro node here
          apply bare node
          simpa [Node.at?, Node.child?, found] using here
        rw [List.cons_append, place_cons (by simp) found]
        cases other with
        | nil => simp [Node.at?, Node.kind]
        | cons first rest =>
          rw [Node.at?, Node.at?, Node.child?, Node.child?]
          by_cases same : first = upper
          · subst same
            rw [get?_put_self, found]
            simpa using ih inner innerBare
          · rw [get?_put_other same]
            simp [same]

theorem at?_place_above (new old : Node) (upper : Location) {rest : Location} (deeper : rest ≠ []) :
    (new.place (upper ++ rest) old).at? upper = (old.at? upper).map (new.place rest) := by
  induction upper generalizing old with
  | nil => rfl
  | cons name lower ih =>
    have more : lower ++ rest ≠ [] := by simp [deeper]
    cases old with
    | file content => simp [Node.place, Node.at?, Node.child?]
    | link target => simp [Node.place, Node.at?, Node.child?]
    | directory entries =>
      cases found : Entries.get? name entries with
      | none =>
        rw [List.cons_append, place_cons_missing more found]
        simp [Node.at?, Node.child?, found]
      | some child =>
        rw [List.cons_append, place_cons more found]
        simp only [Node.at?, Node.child?, get?_put_self, found, Option.bind_some]
        exact ih child

/-- Nodes that are neither above nor below the place stay as they are, with all below them. -/
theorem at?_place_apart {new old : Node} {location other : Location} (notAbove : ¬ other <+: location)
    (notBelow : ¬ location <+: other) :
    (new.place location old).at? other = old.at? other := by
  induction location generalizing old other with
  | nil => exact absurd List.nil_prefix notBelow
  | cons name rest ih =>
    cases other with
    | nil => exact absurd List.nil_prefix notAbove
    | cons first others =>
      cases old with
      | file content => simp [Node.place, Node.at?, Node.child?]
      | link target => simp [Node.place, Node.at?, Node.child?]
      | directory entries =>
        by_cases same : first = name
        · subst same
          have deeper : rest ≠ [] := by
            rintro rfl
            exact notBelow (List.cons_prefix_cons.2 ⟨rfl, List.nil_prefix⟩)
          cases found : Entries.get? first entries with
          | none => rw [place_cons_missing deeper found]
          | some child =>
            rw [place_cons deeper found]
            simp only [Node.at?, Node.child?, get?_put_self, found, Option.bind_some]
            apply ih
            · exact fun above => notAbove (List.cons_prefix_cons.2 ⟨rfl, above⟩)
            · exact fun below => notBelow (List.cons_prefix_cons.2 ⟨rfl, below⟩)
        · have apart : ∀ node : Node,
              Entries.get? first (Entries.put name node entries) = Entries.get? first entries :=
            fun node => get?_put_other same node entries
          cases rest with
          | nil => simp only [Node.place, Node.at?, Node.child?, apart]
          | cons next more =>
            cases found : Entries.get? name entries with
            | none => rw [place_cons_missing (by simp) found]
            | some child =>
              rw [place_cons (by simp) found]
              simp only [Node.at?, Node.child?, apart]

theorem put_same {name : Name} {node : Node} {entries : Entries} (names : NamesOrdered entries)
    (found : Entries.get? name entries = some node) : Entries.put name node entries = entries := by
  induction entries with
  | nil => cases found
  | cons entry rest ih =>
    obtain ⟨other, old⟩ := entry
    rw [Entries.get?] at found
    rw [Entries.put]
    split at found
    · rename_i same
      cases found
      simp [same]
    · rename_i different
      have less : other < name := (List.pairwise_cons.1 names.2).1 _ (mem_of_get? found)
      rw [if_neg different, if_neg (List.lt_asymm less), ih names.tail found]

theorem place_same {node old : Node} {location : Location} (wellFormed : old.WellFormed)
    (found : old.at? location = some node) : node.place location old = old := by
  induction location generalizing old with
  | nil =>
    cases found
    rfl
  | cons name rest ih =>
    obtain ⟨child, here, below⟩ := Option.bind_eq_some_iff.1 found
    cases wellFormed with
    | file content => cases here
    | link target => cases here
    | directory entries names inner =>
      have held : Entries.get? name entries = some child := here
      cases rest with
      | nil =>
        cases below
        rw [Node.place, put_same names held]
      | cons next more =>
        rw [place_cons (by simp) held, ih (inner _ (mem_of_get? held)) below, put_same names held]

end CodeInventory.FileTree
