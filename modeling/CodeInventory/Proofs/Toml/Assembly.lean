import Mathlib
import CodeInventory.Toml.Table

namespace CodeInventory.Toml

open CodeInventory.Document

variable {items : Items} {item : Item} {key : String} {value : Value} {root : Body}
  {builder : Builder} {destination : Destination}

namespace Items

def keys (items : Items) : List String := items.map Prod.fst

theorem get?_eq_none (fresh : key ∉ keys items) : get? key items = none := by
  induction items with
  | nil => rfl
  | cons entry items ih =>
    simp only [keys, List.map_cons, List.mem_cons, not_or] at fresh
    rw [get?, if_neg (Ne.symm fresh.1), ih fresh.2]

theorem put_fresh (fresh : key ∉ keys items) : put key item items = items ++ [(key, item)] := by
  induction items with
  | nil => rfl
  | cons entry items ih =>
    simp only [keys, List.map_cons, List.mem_cons, not_or] at fresh
    rw [put, if_neg (Ne.symm fresh.1), ih fresh.2, List.cons_append]

theorem erase_fresh (fresh : key ∉ keys items) : erase key items = items := by
  unfold erase
  rw [List.filter_eq_self]
  intro entry member
  have other : entry.1 ≠ key := by
    rintro rfl
    exact fresh (List.mem_map_of_mem member)
  simp [other]

end Items

open Items

abbrev NamedTable := String × List (String × Value)

def entryStatement (entry : String × Value) : Statement := .keyValue [] entry.1 entry.2

def entryItem (entry : String × Value) : String × Item := (entry.1, .value entry.2)

def tableStatements (table : NamedTable) : List Statement :=
  .header [] table.1 :: table.2.map entryStatement

def tableItem (table : NamedTable) : String × Item :=
  (table.1, .table false false (table.2.map entryItem))

theorem add_entry (fresh : key ∉ keys items) :
    Builder.add ⟨root, .opened items, destination⟩ (.keyValue [] key value) =
      some ⟨root, .opened (items ++ [(key, .value value)]), destination⟩ := by
  simp [Builder.add, addValue, descend, Body.opened, get?_eq_none fresh, put_fresh fresh]

theorem add_entries {entries : List (String × Value)}
    (distinct : (keys items ++ entries.map Prod.fst).Nodup) :
    (entries.map entryStatement).foldlM Builder.add ⟨root, .opened items, destination⟩ =
      some ⟨root, .opened (items ++ entries.map entryItem), destination⟩ := by
  induction entries generalizing items with
  | nil => simp
  | cons entry entries ih =>
    have fresh : entry.1 ∉ keys items := by
      intro member
      exact (List.nodup_append.1 distinct).2.2 _ member _ (by simp) rfl
    have others : (keys (items ++ [entryItem entry]) ++ entries.map Prod.fst).Nodup := by
      simpa [keys, entryItem] using distinct
    rw [List.map_cons, List.foldlM_cons, entryStatement, add_entry fresh, Option.bind_eq_bind,
      Option.bind_some]
    exact (ih others).trans (by simp [entryItem])

theorem add_header (closed : builder.close = some (.opened items)) (fresh : key ∉ keys items) :
    builder.add (.header [] key) = some ⟨.opened items, .opened [], .table [] key⟩ := by
  simp [Builder.add, closed, Builder.openTable, descend, Body.opened, get?_eq_none fresh,
    erase_fresh fresh]

theorem close_table {entries : Items} (fresh : key ∉ keys items) :
    Builder.close ⟨.opened items, .opened entries, .table [] key⟩ =
      some (.opened (items ++ [(key, .table false false entries)])) := by
  simp [Builder.close, descend, Body.opened, Body.item, get?_eq_none fresh, put_fresh fresh]

theorem add_table {table : NamedTable} (closed : builder.close = some (.opened items))
    (fresh : table.1 ∉ keys items) (distinct : (table.2.map Prod.fst).Nodup) :
    ∃ after, (tableStatements table).foldlM Builder.add builder = some after ∧
      after.close = some (.opened (items ++ [tableItem table])) := by
  have apart : (keys [] ++ table.2.map Prod.fst).Nodup := by simpa [keys] using distinct
  refine ⟨_, ?_, close_table fresh⟩
  rw [tableStatements, List.foldlM_cons, add_header closed fresh, Option.bind_eq_bind,
    Option.bind_some]
  exact add_entries apart

theorem add_tables {tables : List NamedTable} (closed : builder.close = some (.opened items))
    (distinct : (keys items ++ tables.map Prod.fst).Nodup)
    (each : ∀ table ∈ tables, (table.2.map Prod.fst).Nodup) :
    ∃ after, (tables.flatMap tableStatements).foldlM Builder.add builder = some after ∧
      after.close = some (.opened (items ++ tables.map tableItem)) := by
  -- what closing the open table would give is kept, so each table may start from any builder
  induction tables generalizing builder items with
  | nil => exact ⟨builder, rfl, by simpa using closed⟩
  | cons table tables ih =>
    have fresh : table.1 ∉ keys items := by
      intro member
      exact (List.nodup_append.1 distinct).2.2 _ member _ (by simp) rfl
    have others : (keys (items ++ [tableItem table]) ++ tables.map Prod.fst).Nodup := by
      simpa [keys, tableItem] using distinct
    rcases add_table closed fresh (each table (by simp)) with ⟨next, run, closedNext⟩
    rcases ih closedNext others (fun table member => each table (by simp [member]))
      with ⟨after, runs, closedAfter⟩
    refine ⟨after, ?_, by simpa using closedAfter⟩
    rw [List.flatMap_cons, List.foldlM_append, run, Option.bind_eq_bind, Option.bind_some, runs]

theorem entriesToValues_eq_map (items : Items) :
    entriesToValues items = items.map fun entry => (entry.1, entry.2.toValue) := by
  induction items with
  | nil => rw [entriesToValues, List.map_nil]
  | cons entry items ih => rw [entriesToValues, ih, List.map_cons]

theorem toValue_tableItem (table : NamedTable) :
    ((tableItem table).1, (tableItem table).2.toValue) = (table.1, .table table.2) := by
  have entries : entriesToValues (table.2.map entryItem) = table.2 := by
    simp [entriesToValues_eq_map, entryItem, Item.toValue, Function.comp_def]
  rw [tableItem, Item.toValue, entries]

theorem assemble_tables {tables : List NamedTable} (distinct : (tables.map Prod.fst).Nodup)
    (each : ∀ table ∈ tables, (table.2.map Prod.fst).Nodup) :
    assemble (tables.flatMap tableStatements) =
      some (.table (tables.map fun table => (table.1, .table table.2))) := by
  have apart : (keys [] ++ tables.map Prod.fst).Nodup := by simpa [keys] using distinct
  have start : Builder.start.close = some (.opened []) := rfl
  rcases add_tables start apart each with ⟨after, run, closed⟩
  have values : entriesToValues (tables.map tableItem) =
      tables.map fun table => (table.1, .table table.2) := by
    simp only [entriesToValues_eq_map, List.map_map, Function.comp_def, toValue_tableItem]
  rw [assemble, run, Option.bind_some, closed]
  simp only [Option.map_some, List.nil_append, Body.opened, Body.item, Item.toValue, values]

end CodeInventory.Toml
