import FarmRegistry.Registry.Store
import Std.Data.ExtTreeMap

namespace FarmRegistry

structure FarmerSlot where
  farmer : Farmer
  poisoned : Bool

/-- All farms and farmers. The farms are unusable once `farmsPoisoned`. -/
structure MemoryStore where
  farms : Std.ExtTreeMap FarmId Farm
  farmers : Std.ExtTreeMap FarmerId FarmerSlot
  farmsPoisoned : Bool

namespace MemoryStore

def empty : MemoryStore :=
  ⟨∅, ∅, false⟩

def poisonedError : StoreError :=
  .query "in-memory farm store lock poisoned"

def usableFarms (s : MemoryStore) : Except StoreError (Std.ExtTreeMap FarmId Farm) :=
  if s.farmsPoisoned then .error poisonedError else .ok s.farms

def usable (slot : FarmerSlot) : Except StoreError Farmer :=
  if slot.poisoned then .error poisonedError else .ok slot.farmer

def farmList (s : MemoryStore) : Except StoreError (List Farm) :=
  s.usableFarms.map fun farms => farms.toList.map (·.2)

def farmerList (s : MemoryStore) : Except StoreError (List Farmer) :=
  (s.farmers.toList.map (·.2)).mapM usable

def putFarmer (s : MemoryStore) (f : Farmer) : MemoryStore :=
  { s with farmers := s.farmers.insert f.id ⟨f, false⟩ }

def farmerNamed (s : MemoryStore) (farmerId : FarmerId) : Except StoreError Farmer :=
  match s.farmers[farmerId]? with
  | none => .error (.farmerNotFound farmerId)
  | some slot => usable slot

def findFarm (s : MemoryStore) (farmId : FarmId) : Except StoreError (Option Farm) :=
  s.usableFarms.map (·[farmId]?)

def findFarmer (s : MemoryStore) (farmerId : FarmerId) : Except StoreError (Option Farmer) :=
  s.farmers[farmerId]?.mapM usable

def registerFarmer (s : MemoryStore) (farmerId : FarmerId) : Reply MemoryStore Farmer :=
  match s.farmers[farmerId]? with
  | some slot => .ofExcept (usable slot) s
  | none => .ok (.new farmerId) (s.putFarmer (.new farmerId))

def listActiveFarms (s : MemoryStore) (bounds : Option BoundingBox) : Except StoreError (List Farm) :=
  s.farmList.map fun farms =>
    farms.filter fun f => f.isActive && bounds.all f.boundingBox.intersects

def reconcileFarmer (s : MemoryStore) (farmerId : FarmerId) : Reply MemoryStore Farmer :=
  match s.farmerNamed farmerId, s.farmList with
  | .error e, _ => .refused e s
  | .ok _, .error e => .refused e s
  | .ok farmer, .ok farms =>
    match Totals.ofFarms farmerId farms with
    | .ok totals => .ok (.reconciled farmerId totals) (s.putFarmer (.reconciled farmerId totals))
    | .error o =>
      ⟨.error (.overflow o),
        { s with farmers := s.farmers.insert farmerId ⟨farmer, true⟩, farmsPoisoned := true }, []⟩

def checkWrite (farms : Std.ExtTreeMap FarmId Farm) (w : Write) : Except StoreError Unit :=
  let i := w.farmId
  match farms[i]?, w.expected? with
  | none, none => .ok ()
  | some _, none => .error (.conflict s!"farm {i} already exists")
  | none, some _ => .error (.farmNotFound i)
  | some stored, some expected =>
    if stored.version = expected then .ok ()
    else .error (.conflict s!"farm {i} is at version {stored.version.val}, expected {expected.val}")

def checkOwner (s : MemoryStore) (w : Write) : Except StoreError Unit :=
  match w.farm? with
  | none => .ok ()
  | some f => if s.farmers.contains f.farmerId then .ok () else .error (.farmerNotFound f.farmerId)

def moveTotals (farmer : Farmer) (d : TotalsDelta) : Except StoreError Farmer :=
  (farmer.apply d).mapError fun
    | .negative farmerId => .negativeAggregate farmerId
    | e => .query e.message

def prepare (s : MemoryStore) (c : Change) : Except StoreError (List Farmer) := do
  let farmers ← c.deltas.mapM fun d => s.farmerNamed d.farmerId
  checkWrite (← s.usableFarms) c.write
  s.checkOwner c.write
  (farmers.zip c.deltas).mapM fun (farmer, d) => moveTotals farmer d

def writeFarm (s : MemoryStore) : Write → MemoryStore
  | .insert f => { s with farms := s.farms.insert f.id f }
  | .update f _ => { s with farms := s.farms.insert f.id f }
  | .remove i _ => { s with farms := s.farms.erase i }

def commit (s : MemoryStore) (c : Change) : Reply MemoryStore Unit :=
  match s.prepare c with
  | .error e => .refused e s
  | .ok farmers =>
    ⟨.ok (), farmers.foldl putFarmer (s.writeFarm c.write), [.changeApplied c.write.farmId c.deltas.length]⟩

def store : Store MemoryStore
  | .findFarm i, s => .ofExcept (s.findFarm i) s
  | .findFarmer i, s => .ofExcept (s.findFarmer i) s
  | .registerFarmer i, s => s.registerFarmer i
  | .commit c, s => s.commit c
  | .listActiveFarms b, s => .ofExcept (s.listActiveFarms b) s
  | .reconcileFarmer i, s => s.reconcileFarmer i
  | .rebuildIndex, s => ⟨.ok (), s, [.indexUnneeded]⟩

end MemoryStore

end FarmRegistry
