import FarmRegistry.Totals.Farmer

namespace FarmRegistry

inductive Write where
  | insert (farm : Farm)
  | update (farm : Farm) (expected : Signed64)
  | remove (farmId : FarmId) (expected : Signed64)

namespace Write

def farmId : Write → FarmId
  | .insert f => f.id
  | .update f _ => f.id
  | .remove i _ => i

def farm? : Write → Option Farm
  | .insert f => some f
  | .update f _ => some f
  | .remove _ _ => none

def expected? : Write → Option Signed64
  | .insert _ => none
  | .update _ v => some v
  | .remove _ v => some v

end Write

/-- A write with the changes of totals that it implies; both are stored or neither is. -/
structure Change where
  write : Write
  deltas : List TotalsDelta

namespace Change

def insert (f : Farm) : Except Overflow Change :=
  (TotalsDelta.between none (some f)).map (⟨.insert f, ·⟩)

def update (before after : Farm) : Except Overflow Change :=
  (TotalsDelta.between (some before) (some after)).map (⟨.update after before.version, ·⟩)

def remove (before : Farm) : Except Overflow Change :=
  (TotalsDelta.between (some before) none).map (⟨.remove before.id before.version, ·⟩)

end Change

end FarmRegistry
