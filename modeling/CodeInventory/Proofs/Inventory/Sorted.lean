import Mathlib
import CodeInventory.Inventory.Basic
import CodeInventory.Proofs.Text.Order

namespace CodeInventory.Inventory

variable {α : Type}

theorem sorted_perm (inventory : Inventory α) : inventory.sorted.Perm inventory.records :=
  List.mergeSort_perm ..

theorem mem_sorted {inventory : Inventory α} {record : FileRecord α} :
    record ∈ inventory.sorted ↔ record ∈ inventory.records := inventory.sorted_perm.mem_iff

theorem length_sorted (inventory : Inventory α) : inventory.sorted.length = inventory.size :=
  inventory.sorted_perm.length_eq

theorem sorted_increasing (inventory : Inventory α) :
    (inventory.sorted.map (·.path)).Pairwise (· < ·) := by
  have transitive (a b c : FileRecord α) (first : decide (a.path ≤ b.path) = true)
      (second : decide (b.path ≤ c.path) = true) : decide (a.path ≤ c.path) = true := by
    rw [decide_eq_true_eq] at first second ⊢
    exact String.le_trans first second
  have total (a b : FileRecord α) :
      (decide (a.path ≤ b.path) || decide (b.path ≤ a.path)) = true := by
    rw [Bool.or_eq_true, decide_eq_true_eq, decide_eq_true_eq]
    exact String.le_total a.path b.path
  have ordered : inventory.sorted.Pairwise fun a b => a.path ≤ b.path :=
    (List.pairwise_mergeSort transitive total inventory.records).imp of_decide_eq_true
  have distinct : (inventory.sorted.map (·.path)).Nodup :=
    (inventory.sorted_perm.map _).nodup_iff.2 inventory.distinct
  exact ((List.pairwise_map.2 ordered).and distinct).imp fun both =>
    Std.lt_of_le_of_ne both.1 both.2

/-- There is only one way to put records in increasing order of their paths' bytes. -/
theorem eq_sorted_iff {inventory : Inventory α} {list : List (FileRecord α)} :
    list = inventory.sorted ↔
      list.Perm inventory.records ∧
        (list.map fun record => Text.encode record.path).Pairwise (· < ·) := by
  have increasing : (inventory.sorted.map fun record => Text.encode record.path).Pairwise (· < ·) := by
    have paths := List.pairwise_map.1 inventory.sorted_increasing
    exact List.pairwise_map.2 (paths.imp Text.encode_lt_encode.2)
  constructor
  · rintro rfl
    exact ⟨inventory.sorted_perm, increasing⟩
  · rintro ⟨permuted, ordered⟩
    have same := permuted.trans inventory.sorted_perm.symm
    refine same.eq_of_pairwise ?_ (List.pairwise_map.1 ordered) (List.pairwise_map.1 increasing)
    intro a b _ _ less greater
    exact absurd greater (List.lt_asymm less)

theorem total_eq_sum (inventory : Inventory α) (count : α → Nat) :
    inventory.total count = (inventory.sorted.map fun record => count record.extraction).sum := by
  rw [(inventory.sorted_perm.map _).sum_eq, total]
  induction inventory.records with
  | nil => rfl
  | cons record rest ih => rw [List.foldr_cons, ih, List.map_cons, List.sum_cons]

end CodeInventory.Inventory
