import CodeInventory.Proofs.FileTree.Straight
import CodeInventory.Proofs.FileTree.Trails
import Mathlib.Data.List.Forall2

namespace CodeInventory.FileTree

open CodeInventory.Path CodeInventory.Text

variable {tree : FileTree} {first second : Path}

def Component.segment? : Component → Option Bytes
  | .root => none
  | .here => none
  | .up => some dots
  | .name bytes => some bytes

theorem segment?_component? (segment : Bytes) :
    (component? segment).bind Component.segment? =
      if isIdle segment then none else some segment := by
  unfold component?
  split
  · rfl
  · split
    · rename_i up
      rw [up]
      rfl
    · rfl

theorem namesOf_append (front back : List Bytes) :
    namesOf (front ++ back) = namesOf front ++ namesOf back := List.filter_append ..

theorem namesOf_idem (segments : List Bytes) : namesOf (namesOf segments) = namesOf segments := by
  simp [namesOf]

theorem namesOf_eq_filterMap (segments : List Bytes) :
    namesOf segments = (segments.filterMap component?).filterMap Component.segment? := by
  rw [List.filterMap_filterMap]
  simp only [segment?_component?]
  induction segments with
  | nil => rfl
  | cons segment rest ih =>
    by_cases idle : isIdle segment = true
    · rw [namesOf_idle idle, ih]
      simp [idle]
    · rw [namesOf_name idle, ih]
      simp [idle]

theorem root_not_mem_filterMap (segments : List Bytes) :
    Component.root ∉ segments.filterMap component? := by
  intro member
  obtain ⟨segment, _, named⟩ := List.mem_filterMap.1 member
  unfold component? at named
  split at named
  · cases named
  · split at named <;> cases named

theorem namesOf_segmentsOf (path : Path) :
    namesOf (segmentsOf path.bytes) = path.components.filterMap Component.segment? := by
  obtain ⟨head, rest, split⟩ := List.exists_cons_of_ne_nil (segmentsOf_ne_nil path.bytes)
  rw [components_of_segments split, split, List.filterMap_append, ← namesOf_eq_filterMap]
  have one : namesOf [head] =
      (leading path.isAbsolute head).toList.filterMap Component.segment? := by
    rw [namesOf_eq_filterMap]
    by_cases absolute : path.isAbsolute = true
    · obtain ⟨rfl, _⟩ := (isAbsolute_iff_segments split).1 absolute
      rw [absolute]
      rfl
    · by_cases here : head = dot
      · subst here
        simp [leading, absolute]
        rfl
      · simp only [leading, absolute, here, if_false, Bool.false_eq_true, List.filterMap_cons,
          List.filterMap_nil]
        cases component? head <;> rfl
  rw [← one, ← namesOf_append, List.singleton_append]

theorem isAbsolute_iff_root (path : Path) :
    path.isAbsolute = true ↔ Component.root ∈ path.components := by
  obtain ⟨head, rest, split⟩ := List.exists_cons_of_ne_nil (segmentsOf_ne_nil path.bytes)
  rw [components_of_segments split]
  cases absolute : path.isAbsolute with
  | true => simp [leading]
  | false =>
    refine iff_of_false (by simp) ?_
    rw [List.mem_append, not_or]
    refine ⟨fun member => ?_, root_not_mem_filterMap rest⟩
    simp only [leading, Bool.false_eq_true, if_false] at member
    split at member
    · simp at member
    · have inside := root_not_mem_filterMap [head]
      cases named : component? head with
      | none => simp [named] at member
      | some component => simp_all

theorem descend_namesOf {links : Nat} {here : Location} {segments tail : List Bytes}
    (more : tail ≠ []) :
    descend tree .target links here (segments ++ tail) =
      descend tree .target links here (namesOf segments ++ tail) := by
  -- a followed link puts its own segments in front, so the induction is on the links too
  induction links using Nat.strong_induction_on generalizing here segments with
  | _ links fewer =>
    induction segments generalizing here with
    | nil => rfl
    | cons segment rest ih =>
      by_cases idle : isIdle segment = true
      · rw [namesOf_idle idle, List.cons_append, descend, if_pos idle, ih]
      · rw [namesOf_name idle, List.cons_append, List.cons_append]
        by_cases up : segment = dots
        · rw [descend, if_neg idle, if_pos up, descend, if_neg idle, if_pos up, ih]
        · have longer : rest ++ tail ≠ [] := by simp [more]
          have squeezed : namesOf rest ++ tail ≠ [] := by simp [more]
          by_cases long : nameLimit < segment.length
          · rw [descend, descend]
            simp [idle, up, long]
          · rw [descend_lookedUp ⟨idle, up, by simp, long⟩,
              descend_lookedUp ⟨idle, up, by simp, long⟩]
            cases tree.root.at? (here ++ [segment]) with
            | none => simp [longer, squeezed]
            | some node =>
              cases node with
              | file content => simp [longer, squeezed]
              | directory entries => exact ih
              | link target =>
                simp only [longer, squeezed, false_and, if_false]
                split
                · rfl
                · cases links with
                  | zero => rfl
                  | succ links =>
                    have sooner := fun rest => @fewer links (by omega) (origin target here)
                      (segmentsOf target.bytes ++ rest)
                    simp only [← List.append_assoc]
                    rw [sooner rest, sooner (namesOf rest), namesOf_append, namesOf_append,
                      namesOf_idem]

section Same

variable (same : first.components = second.components)

include same

theorem namesOf_respelled :
    namesOf (segmentsOf first.bytes) = namesOf (segmentsOf second.bytes) := by
  rw [namesOf_segmentsOf, namesOf_segmentsOf, same]

theorem origin_respelled (here : Location) : origin first here = origin second here := by
  have absolute : first.isAbsolute = second.isAbsolute := by
    rw [Bool.eq_iff_iff, isAbsolute_iff_root, isAbsolute_iff_root, same]
  rw [origin, origin, absolute]

/-- Paths of the same components that lead to directories lead to the same one. -/
theorem location_respelled {location other : Location} {entries more : Entries}
    (reached : tree.locate first = .ok location) (reachedOther : tree.locate second = .ok other)
    (directory : tree.root.at? location = some (.directory entries))
    (directoryOther : tree.root.at? other = some (.directory more)) : location = other := by
  obtain ⟨_, _, _, leads⟩ := locate_eq_ok reached
  obtain ⟨_, _, _, leadsOther⟩ := locate_eq_ok reachedOther
  rw [← List.append_nil (segmentsOf first.bytes)] at leads
  rw [← List.append_nil (segmentsOf second.bytes)] at leadsOther
  -- a slash at the end of either changes nothing
  obtain ⟨left, through⟩ := descend_through (by simp) leads directory [[]]
  obtain ⟨leftOther, throughOther⟩ := descend_through (by simp) leadsOther directoryOther [[]]
  have stays : ∀ links here, descend tree .target links here [[]] = .ok (.occupied here) := by
    intro links here
    rw [descend, if_pos (by rfl), descend]
  rw [stays, descend_namesOf (by simp)] at through throughOther
  rw [namesOf_respelled same, origin_respelled same, throughOther] at through
  cases through
  rfl

theorem locate_respelled {location other names : Location}
    (reached : tree.locate first = .ok location) (reachedOther : tree.locate second = .ok other)
    (valid : ∀ name ∈ names, NameValid name) (deeper : names ≠ [])
    (short : (pathBelow first names).bytes.length ≤ pathLimit)
    (shortOther : (pathBelow second names).bytes.length ≤ pathLimit) :
    tree.locate (pathBelow first names) = tree.locate (pathBelow second names) := by
  have resolves : ∀ (root : Path) (location : Location), tree.locate root = .ok location →
      (pathBelow root names).bytes.length ≤ pathLimit →
      tree.resolve .target (pathBelow root names) =
        if ∃ name ∈ names, 0 ∈ name then .error .zeroByte
        else descend tree .target linkLimit (origin root tree.workingDirectory)
          (namesOf (segmentsOf root.bytes) ++ names) := by
    intro root location reached short
    obtain ⟨nonempty, noZero, _, _⟩ := locate_eq_ok reached
    obtain ⟨before, blank, segments, blanks, below⟩ := segmentsOf_pathBelow nonempty deeper valid
    have idle : namesOf blank = [] := by
      refine List.filter_eq_nil_iff.2 fun segment member => ?_
      rw [blanks segment member]
      decide
    have zeros : (pathBelow root names).bytes.contains 0 = true ↔ ∃ name ∈ names, 0 ∈ name := by
      simp [zero_mem_pathBelow root valid, noZero]
    have start : origin (pathBelow root names) tree.workingDirectory =
        origin root tree.workingDirectory := by
      simp only [origin, isAbsolute_pathBelow nonempty valid]
    simp only [resolve, pathBelow_ne_nil nonempty valid, if_false, zeros, Nat.not_lt.2 short, start,
      below, segments, namesOf_append, idle, List.append_nil]
    rw [descend_namesOf deeper]
  rw [locate, locate, resolves first location reached short,
    resolves second other reachedOther shortOther, namesOf_respelled same, origin_respelled same]

end Same

inductive Visit.Respelled (first second : Path) : Visit → Visit → Prop where
  | file (names : Location) (deeper : names ≠ []) (valid : ∀ name ∈ names, NameValid name) :
      Respelled first second (.file (pathBelow first names)) (.file (pathBelow second names))
  | failed (error other : WalkError) : Respelled first second (.failed error) (.failed other)

inductive Encounter.Respelled (first second : Path) (names : Location) :
    Encounter → Encounter → Prop where
  | passed {visit other : Option Visit}
      (alike : Option.Rel (Visit.Respelled first second) visit other) :
      Respelled first second names (.passed visit) (.passed other)
  | entered (location : Location) (inside : Entries) :
      Respelled first second names (.entered ⟨location, pathBelow first names⟩ inside)
        (.entered ⟨location, pathBelow second names⟩ inside)

/-- Where two walks from the roots are, when they have gone the same way. -/
structure Abreast (first second : Path) (names : Location) (here there : OpenDirectory)
    (above beyond : List OpenDirectory) : Prop where
  path : here.path = pathBelow first names
  pathThere : there.path = pathBelow second names
  valid : ∀ name ∈ names, NameValid name
  locations : (here :: above).map (·.location) = (there :: beyond).map (·.location)

theorem Abreast.valid_below {names : Location} {here there : OpenDirectory}
    {above beyond : List OpenDirectory} {name : Name}
    (abreast : Abreast first second names here there above beyond) (named : NameValid name) :
    ∀ part ∈ names ++ [name], NameValid part :=
  List.forall_mem_append.2 ⟨abreast.valid, List.forall_mem_singleton.2 named⟩

def Short (visits : List Visit) : Prop :=
  ∀ error, .failed error ∈ visits → error.path.bytes.length ≤ pathLimit

theorem short_append {front back : List Visit} :
    Short (front ++ back) ↔ Short front ∧ Short back := by
  simp only [Short, List.mem_append, or_imp, forall_and]

theorem find?_location (opened : List OpenDirectory) (location : Location) :
    (opened.find? (·.location = location)).isSome =
      (opened.map (·.location)).contains location := by
  induction opened with
  | nil => rfl
  | cons directory rest ih =>
    rw [List.find?_cons, List.map_cons, List.contains_cons, ← ih]
    by_cases same : directory.location = location
    · simp [same]
    · simp [same, Ne.symm same]

theorem encounterTarget_respelled {names : Location} {opened others : List OpenDirectory}
    (locations : opened.map (·.location) = others.map (·.location)) (deeper : names ≠ [])
    (valid : ∀ name ∈ names, NameValid name) (location : Location) :
    Encounter.Respelled first second names
      (encounterTarget tree (pathBelow first names) opened location)
      (encounterTarget tree (pathBelow second names) others location) := by
  have alike : (opened.find? (·.location = location)).isSome =
      (others.find? (·.location = location)).isSome := by
    rw [find?_location, find?_location, locations]
  unfold encounterTarget
  cases tree.root.at? location with
  | none => exact .passed .none
  | some node =>
    cases node with
    | file content => exact .passed (.some (.file names deeper valid))
    | link target => exact .passed .none
    | directory entries =>
      cases here : opened.find? (·.location = location) with
      | none =>
        cases there : others.find? (·.location = location) with
        | none => exact .entered location entries
        | some ancestor => simp [here, there] at alike
      | some ancestor =>
        cases there : others.find? (·.location = location) with
        | none => simp [here, there] at alike
        | some other => exact .passed (.some (.failed _ _))

theorem long_of_locate (tree : FileTree) {path : Path} (long : ¬ path.bytes.length ≤ pathLimit) :
    ∃ fault, tree.locate path = .error fault := by
  cases located : tree.locate path with
  | error fault => exact ⟨fault, rfl⟩
  | ok location => exact absurd (locate_eq_ok located).2.2.1 long

variable {follow : Bool}

theorem short_of_link {here : OpenDirectory} {above : List OpenDirectory} {name : Name}
    {target : Path}
    (short : Short ((encounter tree true here above name (.link target)).visits tree follow
      (here :: above))) : (here.path.join ⟨name⟩).bytes.length ≤ pathLimit := by
  by_cases fits : (here.path.join ⟨name⟩).bytes.length ≤ pathLimit
  · exact fits
  · obtain ⟨fault, failed⟩ := long_of_locate tree fits
    apply short ⟨here.path.join ⟨name⟩, .unreachable fault⟩
    simp [encounter, failed, Encounter.visits]

theorem encounter_respelled {location other names : Location} {here there : OpenDirectory}
    {above beyond : List OpenDirectory} {name : Name} {node : Node}
    (same : first.components = second.components) (reached : tree.locate first = .ok location)
    (reachedOther : tree.locate second = .ok other)
    (abreast : Abreast first second names here there above beyond) (named : NameValid name)
    (short : Short ((encounter tree follow here above name node).visits tree follow
      (here :: above)))
    (shortThere : Short ((encounter tree follow there beyond name node).visits tree follow
      (there :: beyond))) :
    Encounter.Respelled first second (names ++ [name])
      (encounter tree follow here above name node)
      (encounter tree follow there beyond name node) := by
  have path : here.path.join ⟨name⟩ = pathBelow first (names ++ [name]) := by
    rw [pathBelow_concat, ← abreast.path]
  have pathThere : there.path.join ⟨name⟩ = pathBelow second (names ++ [name]) := by
    rw [pathBelow_concat, ← abreast.pathThere]
  have deeper : names ++ [name] ≠ [] := by simp
  have valid := abreast.valid_below named
  cases node with
  | file content =>
    rw [encounter, encounter, path, pathThere]
    exact .passed (.some (.file _ deeper valid))
  | directory entries =>
    have fits : ¬ pathLimit < (here.inner name).path.bytes.length := by
      intro long
      have within := short ⟨(here.inner name).path, .unreachable .nameTooLong⟩ (by
        simp [encounter, long, Encounter.visits])
      exact Nat.not_le.2 long within
    have fitsThere : ¬ pathLimit < (there.inner name).path.bytes.length := by
      intro long
      have within := shortThere ⟨(there.inner name).path, .unreachable .nameTooLong⟩ (by
        simp [encounter, long, Encounter.visits])
      exact Nat.not_le.2 long within
    have location : here.location = there.location := (List.cons.inj abreast.locations).1
    rw [encounter, encounter, if_neg fits, if_neg fitsThere, OpenDirectory.inner,
      OpenDirectory.inner, path, pathThere, location]
    exact .entered _ entries
  | link target =>
    cases follow with
    | false => exact .passed .none
    | true =>
      have located := locate_respelled same reached reachedOther valid deeper
        (path ▸ short_of_link short) (pathThere ▸ short_of_link shortThere)
      rw [encounter, encounter, if_pos rfl, if_pos rfl, path, pathThere, located]
      cases tree.locate (pathBelow second (names ++ [name])) with
      | error fault => exact .passed (.some (.failed _ _))
      | ok location => exact encounterTarget_respelled abreast.locations deeper valid location

theorem walk_respelled {tree : SoundTree} {location other : Location} {here : OpenDirectory}
    {entries : Entries} (same : first.components = second.components)
    (reached : tree.locate first = .ok location) (reachedOther : tree.locate second = .ok other)
    (remaining : Remaining tree here entries) (above : List OpenDirectory) :
    ∀ {names : Location} {there : OpenDirectory} {beyond : List OpenDirectory},
      Abreast first second names here there above beyond →
      Short (tree.walkEntries follow here above entries) →
      Short (tree.walkEntries follow there beyond entries) →
      List.Forall₂ (Visit.Respelled first second) (tree.walkEntries follow here above entries)
        (tree.walkEntries follow there beyond entries) := by
  refine walk_induction_cons (motive := fun here above entries =>
    ∀ {names : Location} {there : OpenDirectory} {beyond : List OpenDirectory},
      Abreast first second names here there above beyond →
      Short (tree.walkEntries follow here above entries) →
      Short (tree.walkEntries follow there beyond entries) →
      List.Forall₂ (Visit.Respelled first second) (tree.walkEntries follow here above entries)
        (tree.walkEntries follow there beyond entries)) follow ?_ ?_ remaining above
  · intro here above names there beyond abreast short shortThere
    rw [walkEntries, walkEntries]
    exact .nil
  · intro here above name node rest remaining below later names there beyond abreast short
      shortThere
    have named := remaining.names.1 _ (List.mem_cons_self ..)
    rw [walkEntries_cons] at short shortThere ⊢
    obtain ⟨shortNow, shortLater⟩ := short_append.1 short
    obtain ⟨shortNowThere, shortLaterThere⟩ := short_append.1 shortThere
    have alike := encounter_respelled same reached reachedOther abreast named shortNow shortNowThere
    rw [walkEntries_cons]
    refine List.rel_append ?_ (later abreast shortLater shortLaterThere)
    generalize encounter tree follow here above name node = met at alike below shortNow
    generalize encounter tree follow there beyond name node = other at alike shortNowThere
    cases alike with
    | passed alike =>
      cases alike with
      | none => exact .nil
      | some alike => exact .cons alike .nil
    | entered location inside =>
      refine below _ inside rfl ⟨rfl, rfl, abreast.valid_below named, ?_⟩ shortNow shortNowThere
      exact congrArg (location :: ·) abreast.locations

section Slashes

variable {path : Path}

def slashed (path : Path) (count : Nat) : Path := ⟨path.bytes ++ List.replicate count slash⟩

theorem length_slashed (path : Path) (count : Nat) :
    (slashed path count).bytes.length = path.bytes.length + count := by
  simp [slashed]

theorem long_join_slashed {name : Name} {count : Nat} (valid : NameValid name)
    (long : pathLimit < path.bytes.length + count + name.length) :
    pathLimit < ((slashed path count).join ⟨name⟩).bytes.length := by
  obtain ⟨between, _, bytes⟩ := join_bytes (slashed path count) valid
  rw [bytes, List.length_append, List.length_append, length_slashed]
  omega

theorem segmentsOf_slashed (path : Path) (count : Nat) :
    segmentsOf (slashed path count).bytes = segmentsOf path.bytes ++ List.replicate count [] := by
  induction count generalizing path with
  | zero => simp [slashed]
  | succ count ih =>
    have longer : slashed path (count + 1) = slashed ⟨path.bytes ++ [slash]⟩ count := by
      simp [slashed, List.replicate_succ]
    rw [longer, ih, segmentsOf_slash, List.replicate_succ]
    simp [segmentsOf]

theorem isIdle_of_replicate {count : Nat} :
    ∀ segment ∈ List.replicate count ([] : Bytes), isIdle segment = true := by
  intro segment member
  rw [List.eq_of_mem_replicate member]
  rfl

theorem isAbsolute_slashed (nonempty : path.bytes ≠ []) (count : Nat) :
    (slashed path count).isAbsolute = path.isAbsolute := by
  rw [isAbsolute, isAbsolute, slashed, List.head?_append_of_ne_nil _ nonempty]

theorem components_slashed (nonempty : path.bytes ≠ []) (count : Nat) :
    (slashed path count).components = path.components := by
  obtain ⟨head, rest, split⟩ := List.exists_cons_of_ne_nil (segmentsOf_ne_nil path.bytes)
  have segments := segmentsOf_slashed path count
  rw [split, List.cons_append] at segments
  rw [components_of_segments segments, components_of_segments split,
    isAbsolute_slashed nonempty, List.filterMap_append, filterMap_idle isIdle_of_replicate,
    List.append_nil]

theorem locate_slashed {location : Location} {entries : Entries} {count : Nat}
    (reached : tree.locate path = .ok location)
    (directory : tree.root.at? location = some (.directory entries))
    (short : path.bytes.length + count ≤ pathLimit) :
    tree.locate (slashed path count) = .ok location := by
  obtain ⟨nonempty, noZero, _, leads⟩ := locate_eq_ok reached
  rw [← List.append_nil (segmentsOf path.bytes)] at leads
  obtain ⟨left, through⟩ := descend_through (by simp) leads directory (List.replicate count [])
  refine locate_ok_iff.2 ⟨⟨?_, ?_, (length_slashed path count).trans_le short⟩, ?_⟩
  · simp [slashed, nonempty]
  · simp [slashed, noZero, slash]
  · rw [origin, isAbsolute_slashed nonempty, segmentsOf_slashed, ← descend_ok_iff]
    exact through.trans (leads_idle isIdle_of_replicate left location).descend

end Slashes

end CodeInventory.FileTree
