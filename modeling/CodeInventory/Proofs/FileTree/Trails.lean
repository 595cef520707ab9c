import CodeInventory.Proofs.FileTree.Encounters
import CodeInventory.Proofs.FileTree.Resolution
import CodeInventory.Proofs.Path.Components

namespace CodeInventory.FileTree

open CodeInventory.Path CodeInventory.Text

variable {tree : SoundTree} {follow : Bool} {here : OpenDirectory} {above : List OpenDirectory}
  {entries rest : Entries} {path : Path} {name : Name} {node : Node}

theorem components_pathBelow {base : Path} {names : Location} (nonempty : base.bytes ≠ [])
    (valid : ∀ name ∈ names, NameValid name) :
    (pathBelow base names).components = base.components ++ names.map .name := by
  induction names generalizing base with
  | nil => simp [pathBelow]
  | cons name rest ih =>
    obtain ⟨first, others⟩ := List.forall_mem_cons.1 valid
    rw [pathBelow, ih (join_ne_nil base first) others, components_join nonempty first]
    simp

theorem pathBelow_inj {base : Path} {names others : Location} (nonempty : base.bytes ≠ [])
    (valid : ∀ name ∈ names, NameValid name) (validOther : ∀ name ∈ others, NameValid name)
    (same : pathBelow base names = pathBelow base others) : names = others := by
  have components := congrArg Path.components same
  rw [components_pathBelow nonempty valid, components_pathBelow nonempty validOther,
    List.append_cancel_left_eq] at components
  exact (List.map_inj_right fun _ _ => Component.name.inj).1 components

theorem pathBelow_append (base : Path) (front back : Location) :
    pathBelow base (front ++ back) = pathBelow (pathBelow base front) back := by
  induction front generalizing base with
  | nil => rfl
  | cons name rest ih => exact ih (base.join ⟨name⟩)

theorem pathBelow_concat (base : Path) (names : Location) (name : Name) :
    pathBelow base (names ++ [name]) = (pathBelow base names).join ⟨name⟩ :=
  pathBelow_append base names [name]

/-- One comes before the other and is not above it. -/
def Apart (names others : Location) : Prop := names < others ∧ ¬ names <+: others

theorem Apart.cons {names others : Location} (apart : Apart names others) (name : Name) :
    Apart (name :: names) (name :: others) := by
  refine ⟨List.cons_lt_cons_iff.2 (.inr ⟨rfl, apart.1⟩), fun leads => apart.2 ?_⟩
  exact (List.cons_prefix_cons.1 leads).2

theorem Apart.of_lt {name other : Name} (less : name < other) (names others : Location) :
    Apart (name :: names) (other :: others) := by
  refine ⟨List.cons_lt_cons_iff.2 (.inl less), fun leads => ?_⟩
  rw [(List.cons_prefix_cons.1 leads).1] at less
  exact List.lt_irrefl _ less

theorem Apart.not_nested {names others : Location} (apart : Apart names others) :
    ¬ names <+: others ∧ ¬ others <+: names := by
  refine ⟨apart.2, fun ⟨more, same⟩ => ?_⟩
  rw [← same] at apart
  -- a list is no less than what it leads
  have ordered : ∀ front : Location, ¬ front ++ more < front := by
    intro front
    induction front with
    | nil => exact List.not_lt_nil _
    | cons name rest ih =>
      intro less
      rcases List.cons_lt_cons_iff.1 less with first | ⟨_, later⟩
      · exact List.lt_irrefl _ first
      · exact ih later
  exact ordered others apart.1

/-- Visits with the names that lead to them from a directory with some entries; all names meet some
condition. -/
structure Trail (meets : Name → Prop) (path : Path) (entries : Entries)
    (trail : List (Location × Visit)) : Prop where
  named : ∀ seen ∈ trail, seen.2.path = pathBelow path seen.1
  valid : ∀ seen ∈ trail, ∀ name ∈ seen.1, meets name
  starts : ∀ seen ∈ trail, ∃ name below, seen.1 = name :: below ∧ name ∈ entries.map Prod.fst
  apart : trail.Pairwise fun a b => Apart a.1 b.1

variable {meets : Name → Prop}

theorem Trail.nil (path : Path) (entries : Entries) : Trail meets path entries [] :=
  ⟨by simp, by simp, by simp, .nil⟩

theorem Trail.passed {visit : Option Visit} (valid : meets name)
    (there : ∀ seen, visit = some seen → seen.path = path.join ⟨name⟩) :
    Trail meets path [(name, node)] (visit.toList.map ([name], ·)) := by
  cases visit with
  | none => exact Trail.nil path _
  | some seen =>
    refine ⟨?_, ?_, ?_, List.pairwise_singleton ..⟩
    · simpa [pathBelow] using there seen rfl
    · simpa using valid
    · simp

theorem Trail.below {inside : Entries} {trail : List (Location × Visit)} (valid : meets name)
    (inner : Trail meets (path.join ⟨name⟩) inside trail) :
    Trail meets path [(name, node)] (trail.map fun seen => (name :: seen.1, seen.2)) := by
  refine ⟨?_, ?_, ?_, ?_⟩
  · intro seen member
    obtain ⟨found, inside, rfl⟩ := List.mem_map.1 member
    exact inner.named found inside
  · intro seen member
    obtain ⟨found, inside, rfl⟩ := List.mem_map.1 member
    exact List.forall_mem_cons.2 ⟨valid, inner.valid found inside⟩
  · intro seen member
    obtain ⟨found, inside, rfl⟩ := List.mem_map.1 member
    exact ⟨name, found.1, rfl, by simp⟩
  · rw [List.pairwise_map]
    exact inner.apart.imp fun apart => apart.cons name

theorem Trail.append {front back : List (Location × Visit)}
    (ordered : NamesOrdered ((name, node) :: rest)) (first : Trail meets path [(name, node)] front)
    (later : Trail meets path rest back) :
    Trail meets path ((name, node) :: rest) (front ++ back) := by
  refine ⟨?_, ?_, ?_, ?_⟩
  · intro seen member
    exact (List.mem_append.1 member).elim (first.named seen) (later.named seen)
  · intro seen member
    exact (List.mem_append.1 member).elim (first.valid seen) (later.valid seen)
  · intro seen member
    rcases List.mem_append.1 member with member | member
    · obtain ⟨start, below, same, among⟩ := first.starts seen member
      exact ⟨start, below, same, by simp_all⟩
    · obtain ⟨start, below, same, among⟩ := later.starts seen member
      exact ⟨start, below, same, List.mem_cons_of_mem _ among⟩
  · refine List.pairwise_append.2 ⟨first.apart, later.apart, ?_⟩
    intro lower isLower upper isUpper
    obtain ⟨start, below, same, among⟩ := first.starts lower isLower
    obtain ⟨next, beyond, sameNext, amongRest⟩ := later.starts upper isUpper
    obtain rfl : start = name := by simpa using among
    obtain ⟨entry, inside, rfl⟩ := List.mem_map.1 amongRest
    rw [same, sameNext]
    exact Apart.of_lt ((List.pairwise_cons.1 ordered.2).1 entry inside) below beyond

theorem Trail.eq_of_prefix {trail : List (Location × Visit)}
    (holds : Trail meets path entries trail)
    {upper lower : Location × Visit} (isUpper : upper ∈ trail) (isLower : lower ∈ trail)
    (leads : upper.1 <+: lower.1) : upper.1 = lower.1 := by
  have both : ∀ a ∈ trail, ∀ b ∈ trail, a.1 <+: b.1 → a.1 = b.1 := by
    apply List.Pairwise.forall_of_forall_of_flip
    · exact fun _ _ _ => rfl
    · exact holds.apart.imp fun apart leads => absurd leads apart.not_nested.1
    · exact holds.apart.imp fun apart leads => absurd leads apart.not_nested.2
  exact both upper isUpper lower isLower leads

theorem exists_trail
    (known : ∀ location name node, tree.root.at? (location ++ [name]) = some node → meets name)
    (remaining : Remaining tree here entries) (follow : Bool) (above : List OpenDirectory) :
    ∃ trail, trail.map Prod.snd = tree.walkEntries follow here above entries ∧
      Trail meets here.path entries trail := by
  refine walk_induction (motive := fun here above entries => ∃ trail,
    trail.map Prod.snd = tree.walkEntries follow here above entries ∧
      Trail meets here.path entries trail) follow ?_ ?_ ?_ remaining above
  · intro here above
    exact ⟨[], by rw [walkEntries]; rfl, Trail.nil here.path []⟩
  · rintro here above name node rest visit remaining passes ⟨trail, same, later⟩
    have ordered := remaining.names
    have valid := known _ _ _ remaining.entry
    refine ⟨visit.toList.map ([name], ·) ++ trail, ?_, ?_⟩
    · rw [walkEntries_cons, passes, List.map_append, same]
      simp [Encounter.visits, Function.comp_def]
    · refine .append ordered (.passed valid ?_) later
      rintro seen rfl
      exact path_of_passed passes
  · rintro here above name node rest directory inside remaining enters ⟨inner, sameInner, below⟩
      ⟨trail, same, later⟩
    have ordered := remaining.names
    have valid := known _ _ _ remaining.entry
    rw [path_of_entered enters] at below
    refine ⟨inner.map (fun seen => (name :: seen.1, seen.2)) ++ trail, ?_, ?_⟩
    · rw [walkEntries_cons, enters, List.map_append, same, List.map_map, Encounter.visits,
        ← sameInner]
      rfl
    · exact .append ordered (.below valid below) later

theorem exists_valid_trail (remaining : Remaining tree here entries) (follow : Bool)
    (above : List OpenDirectory) :
    ∃ trail, trail.map Prod.snd = tree.walkEntries follow here above entries ∧
      Trail NameValid here.path entries trail :=
  exists_trail (fun _ name _ found => valid_of_at? tree.wellFormed found name (by simp))
    remaining follow above

section Consequences

variable {visit other : Visit}

theorem meets_of_visit
    (known : ∀ location name node, tree.root.at? (location ++ [name]) = some node → meets name)
    (remaining : Remaining tree here entries) (nonempty : here.path.bytes ≠ [])
    (visited : visit ∈ tree.walkEntries follow here above entries) {names : Location}
    (valid : ∀ name ∈ names, NameValid name) (below : visit.path = pathBelow here.path names) :
    ∀ name ∈ names, meets name := by
  have both : ∀ location name node, tree.root.at? (location ++ [name]) = some node →
      NameValid name ∧ meets name := fun location name node found =>
    ⟨valid_of_at? tree.wellFormed found name (by simp), known location name node found⟩
  obtain ⟨trail, same, holds⟩ := exists_trail both remaining follow above
  rw [← same] at visited
  obtain ⟨seen, member, rfl⟩ := List.mem_map.1 visited
  rw [holds.named seen member] at below
  obtain rfl := pathBelow_inj nonempty (fun name inside => (holds.valid seen member name inside).1)
    valid below
  exact fun name inside => (holds.valid seen member name inside).2

theorem names_of_visit (remaining : Remaining tree here entries)
    (visited : visit ∈ tree.walkEntries follow here above entries) :
    ∃ names, names ≠ [] ∧ (∀ name ∈ names, NameValid name) ∧
      visit.path = pathBelow here.path names := by
  obtain ⟨trail, same, holds⟩ := exists_valid_trail remaining follow above
  rw [← same] at visited
  obtain ⟨seen, member, rfl⟩ := List.mem_map.1 visited
  obtain ⟨name, below, starts, _⟩ := holds.starts seen member
  exact ⟨seen.1, by simp [starts], holds.valid seen member, holds.named seen member⟩

theorem visits_distinct (remaining : Remaining tree here entries)
    (nonempty : here.path.bytes ≠ []) (follow : Bool) (above : List OpenDirectory) :
    ((tree.walkEntries follow here above entries).map Visit.path).Nodup := by
  obtain ⟨trail, same, holds⟩ := exists_valid_trail remaining follow above
  rw [← same, List.map_map, List.nodup_iff_pairwise_ne, List.pairwise_map]
  refine holds.apart.imp_of_mem fun {a b} isA isB apart equal => ?_
  simp only [Function.comp_apply, holds.named a isA, holds.named b isB] at equal
  have names := pathBelow_inj nonempty (holds.valid a isA) (holds.valid b isB) equal
  exact apart.2 (names ▸ List.prefix_rfl)

theorem visits_not_nested (remaining : Remaining tree here entries)
    (nonempty : here.path.bytes ≠ [])
    (visited : visit ∈ tree.walkEntries follow here above entries)
    (visitedOther : other ∈ tree.walkEntries follow here above entries) {below : Location}
    (valid : ∀ name ∈ below, NameValid name) (nested : other.path = pathBelow visit.path below) :
    below = [] := by
  obtain ⟨trail, same, holds⟩ := exists_valid_trail remaining follow above
  rw [← same] at visited visitedOther
  obtain ⟨upper, isUpper, rfl⟩ := List.mem_map.1 visited
  obtain ⟨lower, isLower, rfl⟩ := List.mem_map.1 visitedOther
  have validBoth : ∀ name ∈ upper.1 ++ below, NameValid name :=
    List.forall_mem_append.2 ⟨holds.valid upper isUpper, valid⟩
  rw [holds.named upper isUpper, holds.named lower isLower, ← pathBelow_append] at nested
  have leads := pathBelow_inj nonempty (holds.valid lower isLower) validBoth nested
  have equal := holds.eq_of_prefix isUpper isLower (leads ▸ List.prefix_append upper.1 below)
  rw [← equal] at leads
  simpa using leads.symm

end Consequences

end CodeInventory.FileTree
