import FarmRegistry.Geometry.Polygon
import FarmRegistry.Id
import FarmRegistry.Number.Bounded

namespace FarmRegistry

inductive StoreError where
  | connection (message : String)
  | query (message : String)
  | conflict (message : String)
  | farmNotFound (farmId : FarmId)
  | farmerNotFound (farmerId : FarmerId)
  | negativeAggregate (farmerId : FarmerId)
deriving DecidableEq

namespace StoreError

def message : StoreError → String
  | .connection m => s!"farm store connection failed: {m}"
  | .query m => s!"farm store query failed: {m}"
  | .conflict m => s!"farm store write conflict: {m}"
  | .farmNotFound farmId => s!"farm {farmId} is not stored"
  | .farmerNotFound farmerId => s!"farmer {farmerId} is not stored"
  | .negativeAggregate farmerId => s!"change would drive totals for farmer {farmerId} below zero"

end StoreError

inductive ServiceError where
  | geometry (e : RingDefect)
  | overlapConflict (farmIds : List FarmId)
  | farmNotFound (farmId : FarmId)
  | farmerNotFound (farmerId : FarmerId)
  | concurrencyConflict (attempts : Nat)
  | aggregateConsistency (farmerId : FarmerId)
  | repository (message : String)

namespace ServiceError

def message : ServiceError → String
  | .geometry e => s!"invalid farm boundary: {e.message}"
  | .overlapConflict farmIds => s!"farm boundary overlaps {farmIds.length} active farm(s)"
  | .farmNotFound farmId => s!"farm {farmId} was not found"
  | .farmerNotFound farmerId => s!"farmer {farmerId} was not found"
  | .concurrencyConflict attempts =>
    s!"farm change lost {attempts} concurrent write race(s); retry later"
  | .aggregateConsistency farmerId => s!"acreage totals for farmer {farmerId} are inconsistent"
  | .repository m => s!"farm storage failed: {m}"

def isTransient : ServiceError → Bool
  | .concurrencyConflict _ => true
  | .repository _ => true
  | _ => false

def ofStore : StoreError → ServiceError
  | .connection m => .repository m
  | .query m => .repository m
  | .conflict _ => .concurrencyConflict 1
  | .farmNotFound farmId => .farmNotFound farmId
  | .farmerNotFound farmerId => .farmerNotFound farmerId
  | .negativeAggregate farmerId => .aggregateConsistency farmerId

end ServiceError

/-- How a computation stops: refused for a reason, or by a number that leaves its range. -/
inductive Stop (ε : Type) where
  | refused (reason : ε)
  | overflow (o : Overflow)

namespace Stop

variable {ε δ α : Type}

def map (f : ε → δ) : Stop ε → Stop δ
  | .refused e => .refused (f e)
  | .overflow o => .overflow o

def ofOverflow : Except Overflow α → Except (Stop ε) α
  | .ok a => .ok a
  | .error o => .error (.overflow o)

end Stop

end FarmRegistry
