import CodeInventory.Glob.Pattern

namespace CodeInventory.Glob

def classItems : List Char → List ClassItem
  | low :: '-' :: high :: rest => .range low high :: classItems rest
  | c :: rest => .single c :: classItems rest
  | [] => []

/-- The characters of a class and the text after its bracket. The first character is taken whatever
it is, so `[]]` and `[!]]` are classes. -/
def classBody? : List Char → Option (List Char × List Char)
  | [] => none
  | first :: text =>
    match text.dropWhile (· ≠ ']') with
    | [] => none
    | _ :: rest => some (first :: text.takeWhile (· ≠ ']'), rest)

def class? : List Char → Option (Element × List Char)
  | '!' :: text => (classBody? text).map fun found => (.outside (classItems found.1), found.2)
  | text => (classBody? text).map fun found => (.inside (classItems found.1), found.2)

theorem length_lt_of_classBody? {text body rest : List Char}
    (found : classBody? text = some (body, rest)) : rest.length < text.length := by
  cases text with
  | nil => simp [classBody?] at found
  | cons first text =>
    simp only [classBody?] at found
    split at found
    · contradiction
    · rename_i bracket after drop
      have shorter := (List.dropWhile_suffix (l := text) (· ≠ ']')).length_le
      rw [drop, List.length_cons] at shorter
      simp only [Option.some.injEq, Prod.mk.injEq] at found
      simp only [List.length_cons, ← found.2]
      omega

theorem length_lt_of_class? {text rest : List Char} {element : Element}
    (found : class? text = some (element, rest)) : rest.length < text.length := by
  unfold class? at found
  split at found <;>
    obtain ⟨⟨body, after⟩, inner, equal⟩ := Option.map_eq_some_iff.1 found <;>
    have shorter := length_lt_of_classBody? inner <;>
    simp only [Prod.mk.injEq] at equal <;>
    simp only [List.length_cons, ← equal.2] <;> omega

def parseFrom (position : Nat) (before : Option Char) :
    List Char → Except PatternError (List Element)
  | [] => .ok []
  | '?' :: text => (parseFrom (position + 1) '?' text).map (.anyChar :: ·)
  | '*' :: '*' :: '*' :: _ => .error ⟨position + 2, .wildcardRun⟩
  | '*' :: '*' :: text =>
    if before.all (· = '/') then
      match text with
      | [] => .ok [.anyComponents]
      | '/' :: rest => (parseFrom (position + 3) '/' rest).map (.anyComponents :: ·)
      | _ => .error ⟨position + 2, .partialComponent⟩
    else .error ⟨position - 1, .partialComponent⟩
  | '*' :: text => (parseFrom (position + 1) '*' text).map (.anySequence :: ·)
  | '[' :: text =>
    match _found : class? text with
    | none => .error ⟨position, .unclosedClass⟩
    | some (element, rest) =>
      (parseFrom (position + 1 + (text.length - rest.length)) ']' rest).map (element :: ·)
  | c :: text => (parseFrom (position + 1) c text).map (.literal c :: ·)
termination_by text => text.length
decreasing_by
  all_goals simp only [List.length_cons]
  all_goals try have := length_lt_of_class? _found
  all_goals omega

def parse (pattern : String) : Except PatternError Pattern := parseFrom 0 none pattern.toList

def parseAll (patterns : List String) : Except PatternError (List Pattern) := patterns.mapM parse

end CodeInventory.Glob
