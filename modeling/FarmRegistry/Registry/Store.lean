import FarmRegistry.Registry.Change
import FarmRegistry.Registry.Error
import FarmRegistry.Registry.Event

namespace FarmRegistry

inductive Call where
  | findFarm (farmId : FarmId)
  | findFarmer (farmerId : FarmerId)
  | registerFarmer (farmerId : FarmerId)
  | commit (change : Change)
  | listActiveFarms (bounds : Option BoundingBox)
  | reconcileFarmer (farmerId : FarmerId)
  | rebuildIndex

namespace Call

abbrev Answer : Call → Type
  | findFarm _ => Option Farm
  | findFarmer _ => Option Farmer
  | registerFarmer _ => Farmer
  | commit _ => Unit
  | listActiveFarms _ => List Farm
  | reconcileFarmer _ => Farmer
  | rebuildIndex => Unit

def name : Call → String
  | findFarm _ => "find_farm"
  | findFarmer _ => "find_farmer"
  | registerFarmer _ => "register_farmer"
  | commit _ => "commit"
  | listActiveFarms _ => "list_active_farms"
  | reconcileFarmer _ => "reconcile_farmer"
  | rebuildIndex => "rebuild_spatial_index"

end Call

structure Reply (σ α : Type) where
  outcome : Except (Stop StoreError) α
  state : σ
  events : List Event

namespace Reply

variable {σ α : Type}

def ok (a : α) (s : σ) : Reply σ α :=
  ⟨.ok a, s, []⟩

def refused (e : StoreError) (s : σ) : Reply σ α :=
  ⟨.error (.refused e), s, []⟩

def ofExcept (r : Except StoreError α) (s : σ) : Reply σ α :=
  ⟨r.mapError .refused, s, []⟩

end Reply

/-- A store of farms and farmers whose state is a value of `σ`. -/
abbrev Store (σ : Type) := (c : Call) → σ → Reply σ c.Answer

end FarmRegistry
