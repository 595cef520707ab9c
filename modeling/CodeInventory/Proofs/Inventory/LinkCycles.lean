import CodeInventory.Proofs.FileTree.DeadLinks
import CodeInventory.Proofs.Inventory.Findings

namespace CodeInventory.Scanner

open CodeInventory.FileTree CodeInventory.Path CodeInventory.Source CodeInventory.Text

variable {α : Type} {scanner : Scanner} {tree : FileTree} {extractor : Extractor α}
  {root path : Path} {location : Location} {entries : Entries}

theorem filter_eq_singleton {β γ : Type} [DecidableEq γ] {label : β → γ} {items : List β}
    {item : β} (distinct : (items.map label).Nodup) (member : item ∈ items) :
    items.filter (fun other => label other = label item) = [item] := by
  induction items with
  | nil => cases member
  | cons first rest ih =>
    obtain ⟨fresh, tail⟩ := List.nodup_cons.1 distinct
    rcases List.mem_cons.1 member with rfl | member
    · rw [List.filter_cons_of_pos (by simp), List.filter_eq_nil_iff.2]
      intro other inside
      simpa using fun same => fresh (List.mem_map.2 ⟨other, inside, same⟩)
    · have different : label first ≠ label item := fun same =>
        fresh (List.mem_map.2 ⟨item, member, same.symm⟩)
      rw [List.filter_cons_of_neg (by simpa using different), ih tail member]

/-- The walk goes past an entry on to others. The entry is skipped once, and nothing below it is
visited. -/
structure SkippedOver (tree : FileTree) (visits : List Visit) (scanned : Scanned α)
    (progress : Progress) (onward : List Level) (path : Path) (obstacle : Obstacle) : Prop where
  goesOn : advance tree true progress = ⟨progress.visited ++ [.failed ⟨path, obstacle⟩], onward⟩
  once : scanned.skipped.filter (fun skip => skip.path = path) = [⟨path, .walk ⟨path, obstacle⟩⟩]
  nothingBelow : ∀ visit ∈ visits, ∀ names, (∀ name ∈ names, NameValid name) →
    visit.path = pathBelow path names → names = []

theorem skip_of_failure {scanned : Scanned α} {error : WalkError}
    (opened : openRoot? tree root = some (location, entries))
    (done : (scanner.scan tree extractor root).result = .ok scanned)
    (failed : .failed error ∈ scanner.visits tree root) :
    ⟨error.path, .walk error⟩ ∈ scanned.skipped := by
  obtain ⟨inventory, _, _, result⟩ := scan_of_opened scanner extractor opened
  rw [result] at done
  cases done
  exact List.mem_append_left _ (List.mem_map.2 ⟨error, mem_failures_iff.2 failed, rfl⟩)

section Opened

variable {tree : SoundTree} {scanned : Scanned α} {count : Nat} {visited : List Visit}
  {here : OpenDirectory} {name : Name} {node : Node} {rest : Entries} {outer : List Level}
  {obstacle : Obstacle} (follows : scanner.followLinks = true)
  (opened : openRoot? tree root = some (location, entries))
  (done : (scanner.scan tree extractor root).result = .ok scanned)
  (now : (advance tree true)^[count] (.start location root entries) =
    ⟨visited, ⟨here, (name, node) :: rest⟩ :: outer⟩)

include follows opened done now

theorem skippedOver_of_failed
    (fails : encounter tree true here (outer.map (·.directory)) name node =
      .passed (some (.failed ⟨path, obstacle⟩))) :
    SkippedOver tree (scanner.visits tree root) scanned
      ⟨visited, ⟨here, (name, node) :: rest⟩ :: outer⟩ (⟨here, rest⟩ :: outer) path obstacle := by
  obtain ⟨reached, directory⟩ := openRoot?_eq_some opened
  have goesOn : advance tree true ⟨visited, ⟨here, (name, node) :: rest⟩ :: outer⟩ =
      ⟨visited ++ [.failed ⟨path, obstacle⟩], ⟨here, rest⟩ :: outer⟩ := by
    rw [advance, fails]
    rfl
  have seen : .failed ⟨path, obstacle⟩ ∈ scanner.visits tree root := by
    rw [visits_eq_walk scanner opened, follows]
    apply (@visited_prefix_walk true entries root location tree directory
      (count + 1)).subset
    rw [Function.iterate_succ_apply', now, goesOn]
    simp
  refine ⟨goesOn, ?_, ?_⟩
  · exact filter_eq_singleton (skipped_nodup opened done) (skip_of_failure opened done seen)
  · intro visit isVisit names valid below
    rw [visits_eq_walk scanner opened] at seen isVisit
    exact visits_not_nested (remaining_of_opened opened) (locate_eq_ok reached).1 seen
      isVisit valid below

end Opened

theorem encounter_loop {here : OpenDirectory} {above : List OpenDirectory} {name : Name}
    {target : Path} {place : Location} {inside : Entries}
    (located : tree.locate (here.path.join ⟨name⟩) = .ok place)
    (directory : tree.root.at? place = some (.directory inside))
    (inOpen : ∃ other ∈ here :: above, other.location = place) :
    ∃ ancestor ∈ here :: above, ancestor.location = place ∧
      encounter tree true here above name (.link target) =
        .passed (some (.failed ⟨here.path.join ⟨name⟩, .loop ancestor.path⟩)) := by
  obtain ⟨other, member, same⟩ := inOpen
  cases first : (here :: above).find? (·.location = place) with
  | none => exact absurd (decide_eq_true same) (List.find?_eq_none.1 first other member)
  | some ancestor =>
    refine ⟨ancestor, List.mem_of_find?_eq_some first, ?_, ?_⟩
    · simpa using List.find?_some first
    · simp only [encounter, if_true, located, encounterTarget, directory, first]

/-- What a walk does about a link that it comes to, when some directories are open. -/
structure LinkPassed (tree : FileTree) (visits : List Visit) (scanned : Scanned α)
    (progress : Progress) (here : OpenDirectory) (above : List OpenDirectory) (onward : List Level)
    (name : Name) (target : Path) : Prop where
  loop : ∀ place, tree.locate (here.path.join ⟨name⟩) = .ok place →
    (∃ other ∈ here :: above, other.location = place) →
    ∃ ancestor ∈ here :: above, ancestor.location = place ∧
      SkippedOver tree visits scanned progress onward (here.path.join ⟨name⟩) (.loop ancestor.path)
  dead : tree.pathExists (here.path.join ⟨name⟩) = false ∨
      LeadsBack tree here.location name target →
    ∃ fault, SkippedOver tree visits scanned progress onward (here.path.join ⟨name⟩)
      (.unreachable fault)

/-- The walk ends. At all times its directories were opened in turn, and each link to one of them,
or to nothing, is skipped once. -/
theorem scan_ends_among_link_cycles (scanner : Scanner) (tree : SoundTree)
    (extractor : Extractor α) (root : Path) (follows : scanner.followLinks = true)
    (directory : tree.isDirectory root = true) :
    ∃ location entries scanned,
      openRoot? tree root = some (location, entries) ∧
      (scanner.scan tree extractor root).result = .ok scanned ∧
      (∃ count, (advance tree true)^[count] (.start location root entries) =
        ⟨scanner.visits tree root, []⟩) ∧
      ∀ count progress here pending outer,
        (advance tree true)^[count] (.start location root entries) = progress →
        progress.agenda = ⟨here, pending⟩ :: outer →
        OpenedInTurn tree location root (here :: outer.map (·.directory)) ∧
        ∀ name target rest, pending = (name, .link target) :: rest →
          LinkPassed tree (scanner.visits tree root) scanned progress here
            (outer.map (·.directory)) (⟨here, rest⟩ :: outer) name target := by
  obtain ⟨location, entries, opened⟩ := openRoot?_of_directory directory
  obtain ⟨reached, there⟩ := openRoot?_eq_some opened
  obtain ⟨_, _, _, scan⟩ := scan_of_opened scanner extractor opened
  have done := congrArg Traced.result scan
  refine ⟨location, entries, _, opened, done, ?_, ?_⟩
  · rw [visits_eq_walk scanner opened, follows]
    exact advance_ends true there
  rintro count ⟨visited, agenda⟩ here pending outer now rfl
  have underWay := @underWay_iterate true entries root location tree there count
  rw [now] at underWay
  have turns := underWay.opened.resolve_left (by simp)
  refine ⟨turns, ?_⟩
  rintro name target rest rfl
  have remaining := underWay.remaining _ (List.mem_cons_self ..)
  have valid := remaining.names.1 _ (List.mem_cons_self ..)
  have grounded := turns.grounded reached there
  refine ⟨?_, ?_⟩
  · rintro place located ⟨other, member, rfl⟩
    obtain ⟨_, _, _, isDirectory⟩ := grounded other member
    obtain ⟨inside, found⟩ := kindAt?_directory.1 isDirectory.directory
    obtain ⟨ancestor, isOpen, same, passes⟩ :=
      @encounter_loop tree here (outer.map (·.directory)) name target _ inside located found
        ⟨other, member, rfl⟩
    exact ⟨ancestor, isOpen, same, skippedOver_of_failed follows opened done now passes⟩
  · intro dead
    obtain ⟨_, _, _, based⟩ := grounded here (List.mem_cons_self ..)
    obtain ⟨fault, failed⟩ := based.dead_link valid (kindAt?_of_at? remaining.entry) dead
    refine ⟨fault, skippedOver_of_failed follows opened done now ?_⟩
    simp only [encounter, if_true, failed]

def circularLinks : Entries :=
  [(encode "gone", .link (.ofString "nowhere")), (encode "self", .link (.ofString "./self")),
    (encode "up", .link (.ofString ".."))]

/-- Links to nothing, to themselves, and out of the root to the directory around it. -/
def circularProject : SoundTree := .ofEdits
  [.makeDirectories (.ofString "src"),
    .makeLink (.ofString "src/gone") (.ofString "nowhere"),
    .makeLink (.ofString "src/self") (.ofString "./self"),
    .makeLink (.ofString "src/up") (.ofString "..")]

def circularStart : Progress := .start [encode "src"] (.ofString "src") circularLinks

/-- The root has been met again below the link that leads out of it. -/
theorem circularProject_revisits :
    ((advance circularProject true)^[6] circularStart).agenda =
      [⟨⟨[encode "src"], .ofString "src/up/src"⟩, [(encode "up", .link (.ofString ".."))]⟩,
        ⟨⟨[], .ofString "src/up"⟩, []⟩, ⟨⟨[encode "src"], .ofString "src"⟩, []⟩] := by
  cbv

theorem circularProject_leadsBack :
    LeadsBack circularProject [encode "src"] (encode "self") (.ofString "./self") := by
  have segments : segmentsOf (Path.ofString "./self").bytes = [dot, encode "self"] := by
    decide +kernel
  have start : origin (.ofString "./self") [encode "src"] = [encode "src"] := by decide +kernel
  refine ⟨[], .single ?_⟩
  rw [segments, start]
  exact .idle (by decide)

theorem circularProject_ends :
    ∃ scanned,
      (Scanner.scan ⟨[[.anySequence]], true, false⟩ circularProject .behaviors
        (.ofString "src")).result = .ok scanned ∧
      (∃ count, (advance circularProject true)^[count] circularStart =
        ⟨Scanner.visits ⟨[[.anySequence]], true, false⟩ circularProject (.ofString "src"), []⟩) ∧
      (scanned.skipped.filter fun skip => skip.path = .ofString "src/up/src/up") =
        [⟨.ofString "src/up/src/up",
          .walk ⟨.ofString "src/up/src/up", .loop (.ofString "src/up")⟩⟩] ∧
      ∃ fault, (scanned.skipped.filter fun skip => skip.path = .ofString "src/self") =
        [⟨.ofString "src/self", .walk ⟨.ofString "src/self", .unreachable fault⟩⟩] := by
  have root : openRoot? circularProject (.ofString "src") =
      some ([encode "src"], circularLinks) := by cbv
  have second : ((advance circularProject true)^[1] circularStart).agenda =
      [⟨⟨[encode "src"], .ofString "src"⟩, circularLinks.tail⟩] := by cbv
  have upper : (Path.ofString "src").join ⟨encode "self"⟩ = .ofString "src/self" := by
    decide +kernel
  have lower : (Path.ofString "src/up/src").join ⟨encode "up"⟩ = .ofString "src/up/src/up" := by
    decide +kernel
  have located : circularProject.locate (.ofString "src/up/src/up") = .ok [] := by cbv
  obtain ⟨location, entries, scanned, opened, done, ends, always⟩ :=
    scan_ends_among_link_cycles ⟨[[.anySequence]], true, false⟩ circularProject .behaviors
      (.ofString "src") rfl (by cbv)
  cases root.symm.trans opened
  refine ⟨scanned, done, ends, ?_, ?_⟩
  · obtain ⟨_, links⟩ := always 6 _ _ _ _ rfl circularProject_revisits
    obtain ⟨ancestor, isOpen, top, skipped⟩ :=
      (links _ _ _ rfl).loop [] (lower ▸ located) (by simp)
    have path : ancestor.path = .ofString "src/up" := by
      simp only [List.map_cons, List.map_nil, List.mem_cons, List.not_mem_nil, or_false] at isOpen
      rcases isOpen with rfl | rfl | rfl
      · cases top
      · rfl
      · cases top
    rw [path] at skipped
    simpa only [lower] using skipped.once
  · obtain ⟨_, links⟩ := always 1 _ _ _ _ rfl second
    obtain ⟨fault, skipped⟩ := (links _ _ _ rfl).dead (.inr circularProject_leadsBack)
    exact ⟨fault, by simpa only [upper] using skipped.once⟩

end CodeInventory.Scanner
