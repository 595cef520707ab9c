import CodeInventory.Proofs.Settings.Validity
import CodeInventory.Settings.Load
import CodeInventory.Settings.Override

namespace CodeInventory.Settings

inductive Operation where
  | reset
  | load (tree : FileTree) (path : Path)
  | loadOrDefault (tree : FileTree) (path : Path)
  | override (given : Override)

/-- The settings after a step. What cannot be loaded leaves them as they were; an override that
fails may have changed the output path. -/
def after (settings : Settings) : Operation → Settings
  | .reset => default
  | .load tree path => (load tree path).toOption.getD settings
  | .loadOrDefault tree path => (loadOrDefault tree path).2
  | .override given => (settings.override given).2

def afterAll (operations : List Operation) : Settings := operations.foldl after default

namespace Operation

def replacement? : Operation → Option Settings
  | reset => some default
  | load tree path => (Settings.load tree path).toOption
  | loadOrDefault tree path => some (Settings.loadOrDefault tree path).2
  | override _ => none

def output? : Operation → Option Path
  | override given => given.output
  | _ => none

end Operation

def base (operations : List Operation) : Settings :=
  (operations.filterMap Operation.replacement?).getLast?.getD default

def sinceReplaced (operations : List Operation) : List Operation :=
  (operations.reverse.takeWhile fun operation => operation.replacement?.isNone).reverse

def givenOutput? (operations : List Operation) : Option Path :=
  ((sinceReplaced operations).filterMap Operation.output?).getLast?

variable {settings : Settings} {operations : List Operation} {operation : Operation}

theorem afterAll_concat (operations : List Operation) (operation : Operation) :
    afterAll (operations ++ [operation]) = (afterAll operations).after operation := by
  simp [afterAll]

theorem base_concat (operations : List Operation) (operation : Operation) :
    base (operations ++ [operation]) = operation.replacement?.getD (base operations) := by
  rw [base, List.filterMap_append, List.getLast?_append]
  cases replaced : operation.replacement? <;> simp [base, replaced]

theorem sinceReplaced_concat (operations : List Operation) (operation : Operation) :
    sinceReplaced (operations ++ [operation]) =
      if operation.replacement?.isNone then sinceReplaced operations ++ [operation] else [] := by
  rw [sinceReplaced, List.reverse_append, List.reverse_singleton, List.singleton_append,
    List.takeWhile_cons]
  split <;> simp [sinceReplaced]

theorem givenOutput?_concat (operations : List Operation) (operation : Operation) :
    givenOutput? (operations ++ [operation]) =
      if operation.replacement?.isNone then operation.output?.or (givenOutput? operations)
      else none := by
  rw [givenOutput?, sinceReplaced_concat]
  split
  · rw [List.filterMap_append, List.getLast?_append]
    cases given : operation.output? <;> simp [givenOutput?, given]
  · rfl

theorem load_valid {tree : FileTree} {path : Path} (loaded : load tree path = .ok settings) :
    settings.validate = .ok () := by
  unfold load at loaded
  cases reading : tree.readText path with
  | error fault => simp [reading, Except.mapError, Bind.bind, Except.bind] at loaded
  | ok document =>
    cases parsed : parse document with
    | error error =>
      simp [reading, parsed, Except.mapError, Bind.bind, Except.bind] at loaded
    | ok found =>
      cases valid : found.validate with
      | error error =>
        simp [reading, parsed, valid, Except.mapError, Bind.bind, Except.bind] at loaded
      | ok =>
        simp [reading, parsed, valid, Except.mapError, Bind.bind, Except.bind, pure,
          Except.pure] at loaded
        exact loaded ▸ valid

def Sound (operations : List Operation) (settings : Settings) : Prop :=
  settings = default ∨ ∃ tree path,
    (.load tree path ∈ operations ∨ .loadOrDefault tree path ∈ operations) ∧
      load tree path = .ok settings

theorem Sound.valid (sound : Sound operations settings) : settings.validate = .ok () := by
  rcases sound with rfl | ⟨tree, path, _, loaded⟩
  · exact default_valid
  · exact load_valid loaded

theorem sound_of_replacement (replaced : operation.replacement? = some settings) :
    Sound (operations ++ [operation]) settings := by
  cases operation with
  | reset =>
    cases replaced
    exact .inl rfl
  | load tree path =>
    cases loaded : Settings.load tree path with
    | error error => simp [Operation.replacement?, loaded, Except.toOption] at replaced
    | ok found =>
      simp only [Operation.replacement?, loaded, Except.toOption, Option.some.injEq] at replaced
      exact .inr ⟨tree, path, .inl (by simp), replaced ▸ loaded⟩
  | loadOrDefault tree path =>
    simp only [Operation.replacement?, Settings.loadOrDefault, Option.some.injEq] at replaced
    split at replaced
    · split at replaced
      · rename_i found loaded
        exact .inr ⟨tree, path, .inr (by simp), replaced ▸ loaded⟩
      · exact .inl replaced.symm
    · exact .inl replaced.symm
  | override given => cases replaced

theorem Sound.concat (sound : Sound operations settings) (operation : Operation) :
    Sound (operations ++ [operation]) settings := by
  rcases sound with same | ⟨tree, path, member, loaded⟩
  · exact .inl same
  · refine .inr ⟨tree, path, ?_, loaded⟩
    rcases member with member | member
    · exact .inl (List.mem_append_left _ member)
    · exact .inr (List.mem_append_left _ member)

def SharesRoots (settings base : Settings) : Prop :=
  settings.sources = base.sources ∧ settings.benches = base.benches ∧ settings.tests = base.tests

/-- What every step keeps: the roots are those of the last replacement, and the output path too
unless another was given since. -/
structure Tracked (operations : List Operation) (settings : Settings) : Prop where
  sound : Sound operations (base operations)
  roots : settings.SharesRoots (base operations)
  output : settings.outputPath = (givenOutput? operations).getD (base operations).outputPath

theorem after_replacement {replacement : Settings} (settings : Settings)
    (replaced : operation.replacement? = some replacement) :
    settings.after operation = replacement := by
  cases operation with
  | reset => exact Option.some.inj replaced
  | load tree path =>
    have loaded : (load tree path).toOption = some replacement := replaced
    rw [after, loaded, Option.getD_some]
  | loadOrDefault tree path => exact Option.some.inj replaced
  | override given => cases replaced

theorem override_roots (settings : Settings) (given : Override) :
    (settings.override given).2.SharesRoots settings := by
  unfold override
  split <;> exact ⟨rfl, rfl, rfl⟩

theorem override_output (settings : Settings) (given : Override) :
    (settings.override given).2.outputPath = given.output.getD settings.outputPath := by
  unfold override
  split <;> rfl

theorem tracked_after (tracked : Tracked operations settings) (operation : Operation) :
    Tracked (operations ++ [operation]) (settings.after operation) := by
  cases replaced : operation.replacement? with
  | some replacement =>
    have same : base (operations ++ [operation]) = replacement := by
      rw [base_concat, replaced, Option.getD_some]
    rw [after_replacement settings replaced]
    refine ⟨same ▸ sound_of_replacement replaced, same ▸ ⟨rfl, rfl, rfl⟩, ?_⟩
    rw [givenOutput?_concat, replaced, same]
    rfl
  | none =>
    have same : base (operations ++ [operation]) = base operations := by
      rw [base_concat, replaced, Option.getD_none]
    refine ⟨same ▸ tracked.sound.concat operation, ?_, ?_⟩
    · rw [same]
      cases operation with
      | reset => cases replaced
      | load tree path =>
        have failed : (load tree path).toOption = none := replaced
        rw [after, failed, Option.getD_none]
        exact tracked.roots
      | loadOrDefault tree path => cases replaced
      | override given =>
        obtain ⟨sources, benches, tests⟩ := override_roots settings given
        exact ⟨sources.trans tracked.roots.1, benches.trans tracked.roots.2.1,
          tests.trans tracked.roots.2.2⟩
    · rw [same, givenOutput?_concat, replaced, Option.isNone_none, if_pos rfl]
      cases operation with
      | reset => cases replaced
      | load tree path =>
        have failed : (load tree path).toOption = none := replaced
        rw [after, failed, Option.getD_none]
        exact tracked.output
      | loadOrDefault tree path => cases replaced
      | override given =>
        rw [after, override_output, tracked.output, Operation.output?]
        cases given.output <;> rfl

theorem tracked_afterAll (operations : List Operation) :
    Tracked operations (afterAll operations) := by
  -- the last step is the one that is added
  generalize reversed : operations.reverse = steps
  obtain rfl : operations = steps.reverse := by rw [← reversed, List.reverse_reverse]
  clear reversed
  induction steps with
  | nil => exact ⟨.inl rfl, ⟨rfl, rfl, rfl⟩, rfl⟩
  | cons operation steps ih =>
    rw [List.reverse_cons, afterAll_concat]
    exact tracked_after ih operation

theorem Tracked.validate (tracked : Tracked operations settings) :
    settings.validate =
      if settings.outputPath.bytes = [] then .error (.settingsInvalid .emptyOutputPath)
      else .ok () := by
  obtain ⟨sources, benches, tests⟩ := tracked.roots
  obtain ⟨validSources, validBenches, validTests, _⟩ := validate_ok_iff.1 tracked.sound.valid
  apply validate_of_roots
  · rw [sources]
    exact validSources
  · rw [benches]
    exact validBenches
  · rw [tests]
    exact validTests

theorem Tracked.output_empty_iff (tracked : Tracked operations settings) :
    settings.outputPath.bytes = [] ↔
      ∃ path, givenOutput? operations = some path ∧ path.bytes = [] := by
  have filled := (validate_ok_iff.1 tracked.sound.valid).2.2.2
  rw [tracked.output]
  cases given : givenOutput? operations with
  | none => simpa using filled
  | some path => simp

theorem after_keeps_allowance (allowed : settings.allowMissingRoots = true)
    (kept : operation.replacement? = none) :
    (settings.after operation).allowMissingRoots = true := by
  cases operation with
  | reset => cases kept
  | load tree path =>
    have failed : (load tree path).toOption = none := kept
    rw [after, failed, Option.getD_none]
    exact allowed
  | loadOrDefault tree path => cases kept
  | override given =>
    rw [after, override]
    split
    · exact allowed
    · simp [withOutput, allowed]

theorem foldl_after_keeps_allowance (later : List Operation)
    (kept : ∀ operation ∈ later, operation.replacement? = none)
    (allowed : settings.allowMissingRoots = true) :
    (later.foldl after settings).allowMissingRoots = true := by
  induction later generalizing settings with
  | nil => exact allowed
  | cons operation later ih =>
    obtain ⟨first, others⟩ := List.forall_mem_cons.1 kept
    exact ih others (after_keeps_allowance allowed first)

theorem override_allows {given : Override} (done : (settings.override given).1 = .ok ())
    (asked : given.allowMissingRoots = true) :
    (settings.override given).2.allowMissingRoots = true := by
  unfold override at done ⊢
  split
  · rename_i error unknown
    simp only [unknown] at done
    cases done
  · simp [asked]

theorem only_an_empty_output_path_invalidates (operations : List Operation) :
    let settings := afterAll operations
    (settings.validate = .ok () ∨
      settings.validate = .error (.settingsInvalid .emptyOutputPath)) ∧
    (settings.validate = .error (.settingsInvalid .emptyOutputPath) ↔
      ∃ path, givenOutput? operations = some path ∧ path.bytes = []) ∧
    settings.SharesRoots (base operations) ∧ Sound operations (base operations) ∧
    ∀ given later, (settings.override given).1 = .ok () → given.allowMissingRoots = true →
      (∀ operation ∈ later, operation.replacement? = none) →
      (afterAll (operations ++ .override given :: later)).allowMissingRoots = true := by
  intro settings
  have tracked : Tracked operations settings := tracked_afterAll operations
  refine ⟨?_, ?_, tracked.roots, tracked.sound, ?_⟩
  · rw [tracked.validate]
    split
    · exact .inr rfl
    · exact .inl rfl
  · rw [tracked.validate, ← tracked.output_empty_iff]
    split <;> simp_all
  · intro given later done asked kept
    rw [afterAll, List.foldl_append]
    exact foldl_after_keeps_allowance later kept (override_allows done asked)

/-- An override that fails after it has taken the output path away, then a document that is not
there. -/
def troubledSteps : List Operation :=
  [.override { format := some "xml", output := some ⟨[]⟩ },
    .load ⟨.directory [], []⟩ (.ofString "inventory.toml")]

theorem troubled_steps_keep_the_allowance :
    (∃ path, givenOutput? troubledSteps = some path ∧ path.bytes = []) ∧
      (afterAll troubledSteps).validate = .error (.settingsInvalid .emptyOutputPath) ∧
      ((afterAll troubledSteps).override { allowMissingRoots := true }).1 = .ok () ∧
      (afterAll (troubledSteps ++
        .override { allowMissingRoots := true } :: troubledSteps)).allowMissingRoots = true := by
  obtain ⟨_, invalid, _, _, stays⟩ := only_an_empty_output_path_invalidates troubledSteps
  have failed : (load ⟨.directory [], []⟩ (.ofString "inventory.toml")).toOption = none := by cbv
  have kept : sinceReplaced troubledSteps = troubledSteps := by
    simp [sinceReplaced, troubledSteps, Operation.replacement?, failed]
  have given : givenOutput? troubledSteps = some ⟨[]⟩ := by
    rw [givenOutput?, kept]
    rfl
  have empty : ∃ path, givenOutput? troubledSteps = some path ∧ path.bytes = [] := ⟨_, given, rfl⟩
  refine ⟨empty, invalid.2 empty, rfl, stays _ troubledSteps rfl rfl ?_⟩
  simp [troubledSteps, Operation.replacement?, failed]

end CodeInventory.Settings
