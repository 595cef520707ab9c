import CodeInventory.Error

namespace CodeInventory

inductive Event where
  | rootScanned (root : Path) (files : Nat) (extractor : String)
  | rootMissing (root : Path)
  | entrySkipped (path : Path)
  | fileSkipped (path : Path)
  | settingsIgnored (path : Path)
  deriving DecidableEq

def Event.isWarning : Event → Bool
  | rootScanned _ _ _ => false
  | _ => true

def Event.message : Event → String
  | rootScanned _ _ _ => "scanning root"
  | rootMissing _ => "scan root not found, treating as empty"
  | entrySkipped _ => "skipping directory entry"
  | fileSkipped _ => "skipping file"
  | settingsIgnored _ => "ignoring config file"

def Event.path : Event → Path
  | rootScanned root _ _ => root
  | rootMissing root => root
  | entrySkipped path => path
  | fileSkipped path => path
  | settingsIgnored path => path

/-- A computation that may fail and that leaves a trace of events, also when it fails. -/
structure Traced (α : Type) where
  events : List Event
  result : Except Error α

namespace Traced

def log (events : List Event) : Traced Unit := ⟨events, .ok ()⟩

def ofExcept {α : Type} (result : Except Error α) : Traced α := ⟨[], result⟩

instance : Monad Traced where
  pure a := ⟨[], .ok a⟩
  bind first next :=
    match first.result with
    | .error error => ⟨first.events, .error error⟩
    | .ok a => ⟨first.events ++ (next a).events, (next a).result⟩

@[simp]
theorem pure_eq {α : Type} (a : α) : (pure a : Traced α) = ⟨[], .ok a⟩ := rfl

@[simp]
theorem bind_ok {α β : Type} (events : List Event) (a : α) (next : α → Traced β) :
    (⟨events, .ok a⟩ : Traced α) >>= next = ⟨events ++ (next a).events, (next a).result⟩ := rfl

@[simp]
theorem bind_error {α β : Type} (events : List Event) (error : Error) (next : α → Traced β) :
    (⟨events, .error error⟩ : Traced α) >>= next = ⟨events, .error error⟩ := rfl

end Traced

end CodeInventory
