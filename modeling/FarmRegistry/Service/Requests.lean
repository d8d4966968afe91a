import FarmRegistry.Service.Run
import FarmRegistry.Wire.Request

namespace FarmRegistry.Service

open Work

variable {σ : Type} (s : Service σ)

def validate (boundary : Ring) : Work σ ServiceError Polygon :=
  settled ((Polygon.ofRing boundary).mapError fun e => .refused (.geometry e))

def runToFarm (m : Intent) : Work σ ServiceError Farm := do
  match ← s.run m with
  | some f => return f
  | none => refuse (.farmNotFound m.farmId)

def create (farmId : FarmId) (r : CreateRequest) : Work σ ServiceError Farm := do
  let polygon ← validate r.boundary
  let farm := Farm.create farmId r.farmerId polygon r.metadata (← s.now)
  s.runToFarm (.create farm)

def reshape (r : ReshapeRequest) : Work σ ServiceError Farm := do
  let polygon ← validate r.boundary
  s.runToFarm (.reshape r.farmId polygon)

def retire (farmId : FarmId) : Work σ ServiceError Farm :=
  s.runToFarm (.retire farmId)

def restore (farmId : FarmId) : Work σ ServiceError Farm :=
  s.runToFarm (.restore farmId)

def erase (farmId : FarmId) : Work σ ServiceError Unit := do
  let _ ← s.run (.erase farmId)

def reassign (r : ReassignRequest) : Work σ ServiceError Farm :=
  s.runToFarm (.reassign r.farmId r.farmerId)

def overlappingFarms (r : OverlapRequest) : Work σ ServiceError (List FarmId) := do
  let polygon ← validate r.boundary
  s.overlapping polygon r.excludeFarmId

def allOverlaps : Work σ ServiceError (List OverlapPair) := do
  let farms ← adapt ServiceError.ofStore (s.ask (.listActiveFarms none))
  let pairs := Farm.allOverlaps farms
  tell (.auditFinished farms.length pairs.length)
  return pairs

def farm (farmId : FarmId) : Work σ ServiceError Farm := do
  match ← adapt ServiceError.ofStore (s.ask (.findFarm farmId)) with
  | some f => return f
  | none => refuse (.farmNotFound farmId)

def farmer (farmerId : FarmerId) : Work σ ServiceError Farmer := do
  match ← adapt ServiceError.ofStore (s.ask (.findFarmer farmerId)) with
  | some f => return f
  | none => refuse (.farmerNotFound farmerId)

def registerFarmer (farmerId : FarmerId) : Work σ ServiceError Farmer :=
  adapt ServiceError.ofStore (s.ask (.registerFarmer farmerId))

def reconcileFarmer (farmerId : FarmerId) : Work σ ServiceError Farmer := do
  let farmer ← adapt ServiceError.ofStore (s.ask (.reconcileFarmer farmerId))
  tell (.farmerReconciled farmerId farmer.totalAcreage farmer.farmCount.val.toNat)
  return farmer

def rebuildIndex : Work σ ServiceError Unit := do
  adapt ServiceError.ofStore (s.ask .rebuildIndex)
  tell .indexRebuilt

end FarmRegistry.Service
