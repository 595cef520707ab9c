import CodeInventory.Inventory.Basic

namespace CodeInventory.Inventory

variable {α : Type}

theorem insert_of_fresh (inventory : Inventory α) (record : FileRecord α)
    (fresh : record.path ∉ inventory.records.map (·.path)) :
    ∃ after, inventory.insert record = .ok after ∧ after.root = inventory.root ∧
      after.records = record :: inventory.records := by
  refine ⟨⟨inventory.root, record :: inventory.records, ?_⟩, ?_, rfl, rfl⟩
  · exact List.nodup_cons.2 ⟨fresh, inventory.distinct⟩
  · rw [insert, dif_neg fresh]

theorem insert_all_of_fresh (inventory : Inventory α) (records : List (FileRecord α))
    (distinct : (records.map (·.path)).Nodup)
    (fresh : ∀ record ∈ records, record.path ∉ inventory.records.map (·.path)) :
    ∃ after, records.foldlM insert inventory = .ok after ∧ after.root = inventory.root ∧
      after.records = records.reverse ++ inventory.records := by
  induction records generalizing inventory with
  | nil => exact ⟨inventory, rfl, rfl, rfl⟩
  | cons record rest ih =>
    obtain ⟨different, tail⟩ := List.nodup_cons.1 distinct
    obtain ⟨next, inserted, sameRoot, holds⟩ :=
      insert_of_fresh inventory record (fresh record (List.mem_cons_self ..))
    have stillFresh : ∀ other ∈ rest, other.path ∉ next.records.map (·.path) := by
      intro other member taken
      rw [holds, List.map_cons, List.mem_cons] at taken
      rcases taken with same | taken
      · exact different (List.mem_map.2 ⟨other, member, same⟩)
      · exact fresh other (List.mem_cons_of_mem _ member) taken
    obtain ⟨after, done, root, all⟩ := ih next tail stillFresh
    refine ⟨after, ?_, root.trans sameRoot, ?_⟩
    · rw [List.foldlM_cons, inserted]
      exact done
    · rw [all, holds, List.reverse_cons, List.append_assoc]
      rfl

theorem aggregate_of_distinct (root : String) (records : List (FileRecord α))
    (distinct : (records.map (·.path)).Nodup) :
    ∃ inventory, aggregate root records = .ok inventory ∧ inventory.root = root ∧
      inventory.records = records.reverse := by
  obtain ⟨inventory, done, sameRoot, all⟩ :=
    insert_all_of_fresh (empty root) records distinct (by simp [empty])
  exact ⟨inventory, done, sameRoot, by simpa [empty] using all⟩

def FirstRepeated (records : List (FileRecord α)) (path : String) : Prop :=
  ∃ before record after, records = before ++ record :: after ∧ (before.map (·.path)).Nodup ∧
    record.path ∈ before.map (·.path) ∧ record.path = path

theorem firstRepeated_after (earlier records : List (FileRecord α))
    (distinct : (earlier.map (·.path)).Nodup)
    (repeats : ¬ ((earlier ++ records).map (·.path)).Nodup) :
    ∃ path, FirstRepeated (earlier ++ records) path := by
  induction records generalizing earlier with
  | nil =>
    rw [List.append_nil] at repeats
    exact absurd distinct repeats
  | cons record rest ih =>
    by_cases taken : record.path ∈ earlier.map (·.path)
    · exact ⟨record.path, earlier, record, rest, rfl, distinct, taken, rfl⟩
    · have split : earlier ++ record :: rest = (earlier ++ [record]) ++ rest := by simp
      rw [split] at repeats ⊢
      refine ih (earlier ++ [record]) ?_ repeats
      rw [List.map_append, List.nodup_append]
      refine ⟨distinct, by simp, ?_⟩
      intro path member other last same
      rw [List.map_singleton, List.mem_singleton] at last
      exact taken (last ▸ same ▸ member)

theorem exists_firstRepeated {records : List (FileRecord α)}
    (repeats : ¬ (records.map (·.path)).Nodup) : ∃ path, FirstRepeated records path :=
  firstRepeated_after [] records List.nodup_nil repeats

theorem aggregate_of_firstRepeated (root : String) {records : List (FileRecord α)} {path : String}
    (first : FirstRepeated records path) :
    aggregate root records = .error (.duplicatePath path) := by
  obtain ⟨before, record, after, rfl, distinct, taken, rfl⟩ := first
  obtain ⟨inventory, collected, _, holds⟩ := aggregate_of_distinct root before distinct
  have held : record.path ∈ inventory.records.map (·.path) := by
    simpa [holds] using taken
  have refused : inventory.insert record = .error (.duplicatePath record.path) := dif_pos held
  rw [aggregate] at collected
  rw [aggregate, List.foldlM_append, collected]
  simp only [Bind.bind, Except.bind, List.foldlM_cons, refused]

theorem get?_eq_some_iff {inventory : Inventory α} {path : String} {record : FileRecord α} :
    inventory.get? path = some record ↔ record ∈ inventory.records ∧ record.path = path := by
  obtain ⟨root, records, distinct⟩ := inventory
  simp only [get?]
  induction records with
  | nil => simp
  | cons head rest ih =>
    obtain ⟨different, tail⟩ := List.nodup_cons.1 distinct
    rw [List.find?_cons]
    by_cases same : head.path = path
    · simp only [same, decide_true, Option.some.injEq, List.mem_cons]
      constructor
      · rintro rfl
        exact ⟨.inl rfl, same⟩
      · rintro ⟨rfl | member, named⟩
        · rfl
        · exact absurd (List.mem_map.2 ⟨record, member, named.trans same.symm⟩) different
    · simp only [same, decide_false, ih tail, List.mem_cons]
      constructor
      · rintro ⟨member, named⟩
        exact ⟨.inr member, named⟩
      · rintro ⟨rfl | member, named⟩
        · exact absurd named same
        · exact ⟨member, named⟩

end CodeInventory.Inventory
