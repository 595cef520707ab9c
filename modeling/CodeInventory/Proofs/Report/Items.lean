namespace CodeInventory.Report

def readWhile {α β : Type} (item? : α → Option β) : List α → List β × List α
  | [] => ([], [])
  | first :: rest =>
    match item? first with
    | none => ([], first :: rest)
    | some found => (found :: (readWhile item? rest).1, (readWhile item? rest).2)

variable {α β γ : Type} {item? : β → Option γ} {write : α → β} {value : α → γ}

theorem mapM_map_eq_some (reads : ∀ item, item? (write item) = some (value item)) (items : List α) :
    (items.map write).mapM item? = some (items.map value) := by
  have total : item? ∘ write = fun item => pure (value item) := funext reads
  rw [List.mapM_map, total, List.mapM_pure]
  rfl

theorem readWhile_append (reads : ∀ item, item? (write item) = some (value item))
    (items : List α) {stop : β} (refused : item? stop = none) (rest : List β) :
    readWhile item? (items.map write ++ stop :: rest) = (items.map value, stop :: rest) := by
  induction items with
  | nil => simp [readWhile, refused]
  | cons item others ih => simp [readWhile, reads, ih]

end CodeInventory.Report
