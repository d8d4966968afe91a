import FarmRegistry.Registry.Change
import FarmRegistry.Registry.Error

namespace FarmRegistry

inductive Intent where
  | create (farm : Farm)
  | reshape (farmId : FarmId) (polygon : Polygon)
  | retire (farmId : FarmId)
  | restore (farmId : FarmId)
  | erase (farmId : FarmId)
  | reassign (farmId : FarmId) (farmerId : FarmerId)

inductive Plan where
  | commit (change : Change) (result : Option Farm)
  | unchanged (farm : Farm)

namespace Intent

def name : Intent → String
  | create _ => "create"
  | reshape _ _ => "update_geometry"
  | retire _ => "soft_delete"
  | restore _ => "restore"
  | erase _ => "hard_delete"
  | reassign _ _ => "reassign"

def farmId : Intent → FarmId
  | create f => f.id
  | reshape i _ => i
  | retire i => i
  | restore i => i
  | erase i => i
  | reassign i _ => i

def mayTakeGround : Intent → Bool
  | create _ => true
  | reshape _ _ => true
  | restore _ => true
  | _ => false

def revise (m : Intent) (f : Farm) (now : Timestamp) : Except Overflow Plan := do
  let update := fun (revised : Except Overflow Farm) => do
    let after ← revised
    return .commit (← Change.update f after) (some after)
  match m with
  | create _ => return .unchanged f
  | reshape _ p => update (f.reshaped p now)
  | retire _ => if f.isActive then update (f.retired now) else return .unchanged f
  | restore _ => if f.isActive then return .unchanged f else update (f.restored now)
  | erase _ => return .commit (← Change.remove f) none
  | reassign _ farmerId =>
    if f.farmerId = farmerId then return .unchanged f else update (f.reassigned farmerId now)

def plan (m : Intent) (current : Option Farm) (now : Timestamp) : Except (Stop ServiceError) Plan :=
  match m, current with
  | create f, _ => Stop.ofOverflow ((Change.insert f).map (.commit · (some f)))
  | m, some f => Stop.ofOverflow (m.revise f now)
  | m, none => .error (.refused (.farmNotFound m.farmId))

end Intent

end FarmRegistry
