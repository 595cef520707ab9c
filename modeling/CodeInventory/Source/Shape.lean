import CodeInventory.Source.Skip

namespace CodeInventory.Source

structure Shape where
  lead : Skip
  captured : Char → Bool
  tail : Skip

namespace Shape

def read? (shape : Shape) (text : List Char) : Option (List Char × List Char) :=
  (shape.lead.after? text).bind fun body =>
    let run := body.takeWhile shape.captured
    if run.isEmpty then none
    else (shape.tail.after? (body.dropWhile shape.captured)).map fun rest => (run, rest)

theorem length_lt_of_read? {shape : Shape} {text run rest : List Char}
    (found : shape.read? text = some (run, rest)) : rest.length < text.length := by
  obtain ⟨body, lead, found⟩ := Option.bind_eq_some_iff.1 found
  by_cases empty : (body.takeWhile shape.captured).isEmpty
  · simp [empty] at found
  · simp only [empty, Bool.false_eq_true, ↓reduceIte, Option.map_eq_some_iff,
      Prod.mk.injEq] at found
    obtain ⟨_, tail, _, rfl⟩ := found
    have whole := congrArg List.length
      (List.takeWhile_append_dropWhile (p := shape.captured) (l := body))
    have first := (shape.lead.after?_suffix lead).length_le
    have last := (shape.tail.after?_suffix tail).length_le
    have positive : 0 < (body.takeWhile shape.captured).length :=
      List.length_pos_iff.2 (by simpa [List.isEmpty_iff] using empty)
    simp only [List.length_append] at whole
    omega

/-- What every match captures, in order of position. A match is looked for after the end of the one
before it. -/
def captures (shape : Shape) : List Char → List (List Char)
  | [] => []
  | c :: text =>
    match _found : shape.read? (c :: text) with
    | some (run, rest) => run :: captures shape rest
    | none => captures shape text
termination_by text => text.length
decreasing_by
  · exact length_lt_of_read? _found
  · simp

def capturesIn (shape : Shape) (text : String) : List String :=
  (shape.captures text.toList).map String.ofList

end Shape

end CodeInventory.Source
