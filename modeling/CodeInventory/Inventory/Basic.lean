import CodeInventory.Error
import CodeInventory.Inventory.Record

namespace CodeInventory

/-- The records of one root. Their order carries no meaning; reports list them by path. -/
structure Inventory (α : Type) where
  root : String
  records : List (FileRecord α)
  distinct : (records.map (·.path)).Nodup

namespace Inventory

variable {α : Type}

def empty (root : String) : Inventory α := ⟨root, [], List.nodup_nil⟩

def size (inventory : Inventory α) : Nat := inventory.records.length

def isEmpty (inventory : Inventory α) : Bool := inventory.records.isEmpty

def get? (inventory : Inventory α) (path : String) : Option (FileRecord α) :=
  inventory.records.find? (·.path = path)

def insert (inventory : Inventory α) (record : FileRecord α) : Except Error (Inventory α) :=
  if taken : record.path ∈ inventory.records.map (·.path) then .error (.duplicatePath record.path)
  else .ok
    { root := inventory.root
      records := record :: inventory.records
      distinct := List.nodup_cons.2 ⟨taken, inventory.distinct⟩ }

def aggregate (root : String) (records : List (FileRecord α)) : Except Error (Inventory α) :=
  records.foldlM insert (empty root)

def total (inventory : Inventory α) (count : α → Nat) : Nat :=
  inventory.records.foldr (fun record sum => count record.extraction + sum) 0

def sorted (inventory : Inventory α) : List (FileRecord α) :=
  inventory.records.mergeSort fun a b => decide (a.path ≤ b.path)

end Inventory

end CodeInventory
