import FarmRegistry.Sql.Pool
import FarmRegistry.Sql.Session

namespace FarmRegistry.Sql

open Session

variable {δ : Type} (db : Database δ)

def placeIndex : String :=
  "farms_active_bbox_idx"

def plain {α : Type} (x : Session δ QueryError α) : Session δ StoreError α :=
  x.explained QueryError.storeError

def queried {α : Type} (x : Session δ QueryError α) : Session δ TransactionError α :=
  adapt .query x

def owned {α : Type} (farmerId : FarmerId) (x : Session δ QueryError α) : Session δ TransactionError α :=
  adapt .store (x.explained (QueryError.writeError farmerId))

def findFarm (farmId : FarmId) : Session δ StoreError (Option Farm) := do
  let record ← plain (first? db StoredFarm.ofRow? (.findFarm farmId))
  ofExcept (record.mapM StoredFarm.toFarm)

def findFarmer (farmerId : FarmerId) : Session δ StoreError (Option Farmer) := do
  let record ← plain (first? db StoredFarmer.ofRow? (.findFarmer farmerId))
  ofExcept (record.mapM StoredFarmer.toFarmer)

def registerFarmer (farmerId : FarmerId) : Session δ StoreError Farmer := do
  if 0 < (← plain (count db (.registerFarmer farmerId))) then tell (.farmerRegistered farmerId)
  ofExcept (← plain (first db StoredFarmer.ofRow? (.findFarmer farmerId))).toFarmer

def confirmMatch (farmId : FarmId) (expected : Signed64) (matched : Nat) : Session δ TransactionError Unit := do
  if matched = 0 then
    if ← queried (first db (·.truth? "exists") (.farmExists farmId)) then
      refuse (.store (.conflict s!"farm {farmId} is no longer at version {expected.val}"))
    else refuse (.store (.farmNotFound farmId))

def write : Write → Session δ TransactionError Unit
  | .insert f => owned f.farmerId (act db (.insertFarm (.ofFarm f)))
  | .update f expected => do
    confirmMatch db f.id expected (← owned f.farmerId (count db (.updateFarm (.ofFarm f) expected)))
  | .remove i expected => do confirmMatch db i expected (← queried (count db (.removeFarm i expected)))

def adjust (d : TotalsDelta) : Session δ TransactionError Unit := do
  if (← owned d.farmerId (count db (.adjustFarmer d))) = 0 then refuse (.store (.farmerNotFound d.farmerId))

def commit (c : Change) : Session δ StoreError Unit := do
  concluded (transaction db .query do
    write db c.write
    c.deltas.forM (adjust db))
  tell (.changeStored c.write.farmId c.deltas.length)

def listActiveFarms (bounds : Option BoundingBox) : Session δ StoreError (List Farm) := do
  let records ← plain (all db StoredFarm.ofRow? (.listActiveFarms bounds))
  ofExcept (records.mapM StoredFarm.toFarm)

def storeTotals (farmerId : FarmerId) : Session δ TransactionError Totals := do
  if (← queried (first? db (·.uuid? "id") (.lockFarmer farmerId))).isNone then
    refuse (.store (.farmerNotFound farmerId))
  let records ← queried (all db StoredFarm.ofRow? (.farmerFarms farmerId))
  let farms ← adapt .store (ofExcept (records.mapM StoredFarm.toFarm))
  let totals ← settled (Stop.ofOverflow (Totals.ofFarms farmerId farms))
  queried (act db (.setFarmer farmerId totals))
  return totals

def reconcileFarmer (farmerId : FarmerId) : Session δ StoreError Farmer := do
  let totals ← concluded (transaction db .query (storeTotals db farmerId))
  tell (.totalsStored farmerId totals.area.val totals.farmCount.val.toNat)
  return .reconciled farmerId totals

def rebuildIndex : Session δ StoreError Unit := do
  plain (act db .reindex)
  plain (act db .analyze)
  tell (.tableReindexed placeIndex)

def store : Store δ
  | .findFarm i, s => (findFarm db i).reply s
  | .findFarmer i, s => (findFarmer db i).reply s
  | .registerFarmer i, s => (registerFarmer db i).reply s
  | .commit c, s => (commit db c).reply s
  | .listActiveFarms b, s => (listActiveFarms db b).reply s
  | .reconcileFarmer i, s => (reconcileFarmer db i).reply s
  | .rebuildIndex, s => (rebuildIndex db).reply s

def unreachable : Store δ :=
  fun _ s => .refused (.connection (PoolError.checkout "Timed out in bb8").cause) s

def PoolSettings.start (c : PoolSettings) (link : Link δ) : Except PoolError (Store δ × Event) :=
  let ready := Event.poolReady c.maxSize c.minIdle
  match link with
  | .ok db => .ok (store db, ready)
  | .error m => if 0 < c.minIdle.getD 0 then .error (.build m) else .ok (unreachable, ready)

end FarmRegistry.Sql
