import CodeInventory.Proofs.Source.Declarations
import Mathlib.Data.List.Sort
import Mathlib.Data.String.Basic

namespace CodeInventory

theorem NameSet.eq_of_mem_iff {set other : NameSet}
    (same : ∀ name, name ∈ set ↔ name ∈ other) : set = other := by
  cases set with
  | mk names increasing =>
    cases other with
    | mk others increasingToo =>
      have equal : names = others := increasing.eq_of_mem_iff increasingToo same
      subst equal
      rfl

namespace Source

open CodeInventory.Text

theorem takeWhile_before {p : Char → Bool} {c : Char} (stops : p c = false)
    (text rest : List Char) : (text ++ c :: rest).takeWhile p = text.takeWhile p := by
  induction text with
  | nil => simp [stops]
  | cons d text ih => simp only [List.cons_append, List.takeWhile_cons, ih]

theorem dropWhile_before {p : Char → Bool} {c : Char} (stops : p c = false)
    (text rest : List Char) :
    (text ++ c :: rest).dropWhile p = text.dropWhile p ++ c :: rest := by
  induction text with
  | nil => simp [stops]
  | cons d text ih =>
    rw [List.cons_append, List.dropWhile_cons, List.dropWhile_cons]
    split
    · exact ih
    · rfl

namespace Skip

def avoids (c : Char) : Skip → Bool
  | word letters => !letters.contains c
  | one allowed => !allowed c
  | blanks => !isBlank c
  | optional inner => inner.avoids c
  | either first second => first.avoids c && second.avoids c
  | andThen first second => first.avoids c && second.avoids c

theorem afterWord_before {letters : List Char} {c : Char} (outside : c ∉ letters)
    (text rest : List Char) :
    afterWord letters (text ++ c :: rest) = (afterWord letters text).map (· ++ c :: rest) := by
  induction letters generalizing text with
  | nil => rfl
  | cons letter letters ih =>
    rw [List.mem_cons, not_or] at outside
    cases text with
    | nil => simp [afterWord, Ne.symm outside.1]
    | cons d text =>
      simp only [List.cons_append, afterWord]
      split
      · exact ih outside.2 text
      · rfl

theorem after?_before {skip : Skip} {c : Char} (avoids : skip.avoids c = true)
    (text rest : List Char) :
    skip.after? (text ++ c :: rest) = (skip.after? text).map (· ++ c :: rest) := by
  induction skip generalizing text with
  | word letters =>
    apply afterWord_before
    simpa [Skip.avoids] using avoids
  | one allowed =>
    have refused : allowed c = false := by simpa [Skip.avoids] using avoids
    cases text with
    | nil => simp [after?, refused]
    | cons d text =>
      simp only [List.cons_append, after?]
      split <;> rfl
  | blanks =>
    have visible : isBlank c = false := by simpa [Skip.avoids] using avoids
    rw [after?, after?, dropWhile_before visible, Option.map_some]
  | optional inner ih =>
    rw [after?, after?, ih avoids text]
    cases inner.after? text <;> rfl
  | either first second ihFirst ihSecond =>
    rw [Skip.avoids, Bool.and_eq_true] at avoids
    rw [after?, after?, ihFirst avoids.1 text, ihSecond avoids.2 text]
    cases first.after? text <;> rfl
  | andThen first second ihFirst ihSecond =>
    rw [Skip.avoids, Bool.and_eq_true] at avoids
    rw [after?, after?, ihFirst avoids.1 text]
    cases first.after? text with
    | none => rfl
    | some middle => exact ihSecond avoids.2 middle

end Skip

namespace Shape

def avoids (shape : Shape) (c : Char) : Bool :=
  shape.lead.avoids c && !shape.captured c && shape.tail.avoids c

variable {shape : Shape} {c : Char}

/-- What is read before the character does not depend on what comes after it. -/
theorem read?_before (avoids : shape.avoids c = true) (text rest : List Char) :
    shape.read? (text ++ c :: rest) =
      (shape.read? text).map fun found => (found.1, found.2 ++ c :: rest) := by
  rw [Shape.avoids, Bool.and_eq_true, Bool.and_eq_true, Bool.not_eq_true'] at avoids
  rcases avoids with ⟨⟨lead, outside⟩, tail⟩
  simp only [read?, Skip.after?_before lead text]
  cases shape.lead.after? text with
  | none => rfl
  | some body =>
    simp only [Option.map_some, Option.bind_some, takeWhile_before outside,
      dropWhile_before outside, Skip.after?_before tail]
    split
    · rfl
    · cases shape.tail.after? (body.dropWhile shape.captured) <;> rfl

theorem captures_joined (avoids : shape.avoids c = true) (text rest : List Char) :
    shape.captures (text ++ c :: rest) = shape.captures text ++ shape.captures rest := by
  fun_induction shape.captures text with
  | case1 =>
    have missing : shape.read? (c :: rest) = none := by
      have nothing := read?_before avoids [] rest
      rw [read?_nil] at nothing
      exact nothing
    exact captures_of_missing missing
  | case2 d text run after found ih =>
    have foundToo : shape.read? (d :: text ++ c :: rest) = some (run, after ++ c :: rest) := by
      rw [read?_before avoids, found]
      rfl
    rw [captures_of_read? foundToo, ih, List.cons_append]
  | case3 d text missing ih =>
    have missingToo : shape.read? (d :: text ++ c :: rest) = none := by
      rw [read?_before avoids, missing]
      rfl
    exact (captures_of_missing missingToo).trans ih

theorem capturesIn_joined (avoids : shape.avoids ';' = true) (first second : String) :
    shape.capturesIn (first ++ ";" ++ second) =
      shape.capturesIn first ++ shape.capturesIn second := by
  have split : (first ++ ";" ++ second).toList = first.toList ++ ';' :: second.toList := by simp
  rw [capturesIn, split, captures_joined avoids, List.map_append]
  rfl

theorem capturesIn_intercalate (avoids : shape.avoids ';' = true) (texts : List String) :
    shape.capturesIn (";".intercalate texts) = texts.flatMap shape.capturesIn := by
  induction texts with
  | nil => simp [capturesIn, captures]
  | cons first others ih =>
    cases others with
    | nil => simp
    | cons second more =>
      have joined : ";".intercalate (first :: second :: more) =
          first ++ ";" ++ ";".intercalate (second :: more) := by simp
      rw [joined, capturesIn_joined avoids, ih, ← List.flatMap_cons]

end Shape

def declarationShapes : List Shape :=
  [functionShape, classShape, interfaceShape, typeShape, constantShape, functionValueShape,
   exportShape]

theorem declarationShapes_avoid : ∀ shape ∈ declarationShapes, shape.avoids ';' = true := by
  decide +kernel

theorem reportable_congr {names others : List String}
    (same : ∀ name, name ∈ names ↔ name ∈ others) : reportable names = reportable others := by
  apply NameSet.eq_of_mem_iff
  intro name
  rw [mem_reportable, mem_reportable, same]

/-- Only which names the shapes capture matters, not how often or in what order. -/
theorem classify_congr {text other : String}
    (same : ∀ shape ∈ declarationShapes, ∀ name,
      name ∈ shape.capturesIn text ↔ name ∈ shape.capturesIn other) :
    classify text = classify other := by
  simp only [declarationShapes, List.forall_mem_cons] at same
  rcases same with ⟨functions, classes, interfaces, types, constants, bound, exports, _⟩
  rw [classify, classify, reportable_congr functions, reportable_congr classes,
    reportable_congr interfaces, reportable_congr types, reportable_congr exports]
  congr 1
  apply reportable_congr
  intro name
  simp [constants, bound]

def BindsFunction (text name : String) : Prop :=
  Declares "const" MarkedAsFunction text.toList name.toList

theorem mem_functionValues_iff {text name : String} (long : 1 < name.length) :
    name ∈ functionValueShape.capturesIn text ↔ BindsFunction text name :=
  mem_capturesIn_keyword (by decide +kernel) closes_functionMark rfl long

theorem mem_constants_iff {text name : String} :
    name ∈ (classify text).constants ↔ (1 < name.length ∧ isReserved name = false) ∧
      name ∈ constantShape.capturesIn text ∧ ¬ BindsFunction text name := by
  rw [classify, mem_reportable]
  apply and_congr_right
  intro known
  rw [← mem_functionValues_iff known.1]
  simp

/-- The names of two texts together, kind by kind. What either text binds as a function is no
constant of the whole. -/
structure JoinsNames (whole first second : String) : Prop where
  functions : ∀ name, name ∈ (classify whole).functions ↔
    name ∈ (classify first).functions ∨ name ∈ (classify second).functions
  classes : ∀ name, name ∈ (classify whole).classes ↔
    name ∈ (classify first).classes ∨ name ∈ (classify second).classes
  interfaces : ∀ name, name ∈ (classify whole).interfaces ↔
    name ∈ (classify first).interfaces ∨ name ∈ (classify second).interfaces
  types : ∀ name, name ∈ (classify whole).types ↔
    name ∈ (classify first).types ∨ name ∈ (classify second).types
  constants : ∀ name, name ∈ (classify whole).constants ↔
    (name ∈ (classify first).constants ∨ name ∈ (classify second).constants) ∧
      ¬ (BindsFunction first name ∨ BindsFunction second name)
  exports : ∀ name, name ∈ (classify whole).exports ↔
    name ∈ (classify first).exports ∨ name ∈ (classify second).exports

theorem mem_reportable_joined {shape : Shape} (known : shape ∈ declarationShapes)
    (first second name : String) :
    name ∈ reportable (shape.capturesIn (first ++ ";" ++ second)) ↔
      name ∈ reportable (shape.capturesIn first) ∨
        name ∈ reportable (shape.capturesIn second) := by
  rw [Shape.capturesIn_joined (declarationShapes_avoid shape known), mem_reportable,
    mem_reportable, mem_reportable, List.mem_append, and_or_left]

theorem bindsFunction_joined {name : String} (long : 1 < name.length) (first second : String) :
    BindsFunction (first ++ ";" ++ second) name ↔
      BindsFunction first name ∨ BindsFunction second name := by
  have avoids : functionValueShape.avoids ';' = true :=
    declarationShapes_avoid _ (by simp [declarationShapes])
  rw [← mem_functionValues_iff long, ← mem_functionValues_iff long,
    ← mem_functionValues_iff long, Shape.capturesIn_joined avoids, List.mem_append]

theorem mem_constants_joined (first second name : String) :
    name ∈ (classify (first ++ ";" ++ second)).constants ↔
      (name ∈ (classify first).constants ∨ name ∈ (classify second).constants) ∧
        ¬ (BindsFunction first name ∨ BindsFunction second name) := by
  have avoids : constantShape.avoids ';' = true :=
    declarationShapes_avoid _ (by simp [declarationShapes])
  rw [mem_constants_iff, mem_constants_iff, mem_constants_iff, Shape.capturesIn_joined avoids,
    List.mem_append]
  by_cases known : 1 < name.length ∧ isReserved name = false
  · rw [bindsFunction_joined known.1]
    tauto
  · simp [known]

theorem classify_is_local_across_semicolons :
    (∀ first second : String, JoinsNames (first ++ ";" ++ second) first second) ∧
    ∀ texts others : List String, (∀ text, text ∈ texts ↔ text ∈ others) →
      classify (";".intercalate texts) = classify (";".intercalate others) := by
  constructor
  · intro first second
    exact {
      functions := mem_reportable_joined (by simp [declarationShapes]) first second
      classes := mem_reportable_joined (by simp [declarationShapes]) first second
      interfaces := mem_reportable_joined (by simp [declarationShapes]) first second
      types := mem_reportable_joined (by simp [declarationShapes]) first second
      constants := mem_constants_joined first second
      exports := mem_reportable_joined (by simp [declarationShapes]) first second }
  · intro texts others same
    apply classify_congr
    intro shape known name
    have avoids := declarationShapes_avoid shape known
    rw [Shape.capturesIn_intercalate avoids, Shape.capturesIn_intercalate avoids,
      List.mem_flatMap, List.mem_flatMap]
    simp only [same]

/-- A constant that a later part binds to a function, and a part that would go on with a name. -/
def partsInOrder : List String := ["const run = 1", "export class", " Foo", "const run = ("]

def partsShuffled : List String :=
  [" Foo", "const run = (", "const run = 1", "const run = (", "export class"]

theorem shuffled_parts_classify_alike :
    (∀ text, text ∈ partsInOrder ↔ text ∈ partsShuffled) ∧
      classify (";".intercalate partsInOrder) = classify (";".intercalate partsShuffled) := by
  have same : ∀ text, text ∈ partsInOrder ↔ text ∈ partsShuffled := by
    intro text
    simp only [partsInOrder, partsShuffled, List.mem_cons, List.not_mem_nil, or_false]
    tauto
  exact ⟨same, classify_is_local_across_semicolons.2 partsInOrder partsShuffled same⟩

end Source

end CodeInventory
