import FarmRegistry.Sql.Database
import Std.Data.ExtTreeMap

namespace FarmRegistry

def Json.isArray : Json → Bool
  | .array _ => true
  | _ => false

def Json.isObject : Json → Bool
  | .object _ => true
  | _ => false

def BoundingBox.isOrdered (b : BoundingBox) : Bool :=
  Decimal.units b.minLng ≤ Decimal.units b.maxLng && Decimal.units b.minLat ≤ Decimal.units b.maxLat

namespace Sql

namespace StoredFarm

def row (r : StoredFarm) : Row :=
  [("id", .uuid r.id.uuid), ("farmer_id", .uuid r.farmerId.uuid), ("boundary", .json r.boundary),
    ("area_m2", .integer r.area.squareMetres), ("metadata", .json r.metadata), ("version", .integer r.version),
    ("deleted_at", (r.deletedAt.map Datum.instant).getD .null), ("created_at", .instant r.createdAt),
    ("updated_at", .instant r.updatedAt)]

theorem ofRow?_row (r : StoredFarm) : ofRow? r.row = some r := by
  obtain ⟨_, _, _, _, _, _, deletedAt, _, _⟩ := r
  cases deletedAt <;> rfl

end StoredFarm

namespace StoredFarmer

def ofTotals (i : FarmerId) (t : Totals) : StoredFarmer :=
  ⟨i, t.area, ⟨t.farmCount.val, by have := t.farmCount.lo_le; omega, by have := t.farmCount.le_hi; omega⟩⟩

def new (i : FarmerId) : StoredFarmer :=
  ofTotals i .zero

def row (r : StoredFarmer) : Row :=
  [("id", .uuid r.id.uuid), ("total_area_m2", .integer r.totalArea.squareMetres), ("farm_count", .integer r.farmCount)]

theorem ofRow?_row (r : StoredFarmer) : ofRow? r.row = some r := rfl

def plus? (r : StoredFarmer) (d : TotalsDelta) : Option StoredFarmer := do
  return ⟨d.farmerId, ← r.totalArea.add? d.area, ← Bounded.ofInt? (r.farmCount.val + d.farmCount.val)⟩

end StoredFarmer

inductive FarmRule where
  | owner
  | area
  | boundary
  | metadata
  | box
deriving DecidableEq

namespace FarmRule

def all : List FarmRule :=
  [owner, area, boundary, metadata, box]

def constraint : FarmRule → String
  | owner => "farms_farmer_id_fkey"
  | area => "farms_area_non_negative"
  | boundary => "farms_boundary_is_array"
  | metadata => "farms_metadata_is_object"
  | box => "farms_bbox_ordered"

def kind : FarmRule → FailureKind
  | owner => .foreignKeyViolation
  | _ => .checkViolation

def failure (rule : FarmRule) (message : String) : Failure :=
  ⟨rule.kind, message, some rule.constraint⟩

end FarmRule

inductive FarmerRule where
  | totalArea
  | farmCount
deriving DecidableEq

namespace FarmerRule

def all : List FarmerRule :=
  [totalArea, farmCount]

def constraint : FarmerRule → String
  | totalArea => "farmers_total_area_non_negative"
  | farmCount => "farmers_farm_count_non_negative"

def failure (rule : FarmerRule) (message : String) : Failure :=
  ⟨.checkViolation, message, some rule.constraint⟩

end FarmerRule

def Failure.taken (message : String) : Failure :=
  ⟨.uniqueViolation, message, some "farms_pkey"⟩

def Failure.outOfRange : Failure :=
  ⟨.unknown, "bigint out of range", none⟩

def StoredFarmer.breaks (r : StoredFarmer) : FarmerRule → Bool
  | .totalArea => r.totalArea.isNegative
  | .farmCount => r.farmCount.val < 0

namespace FarmWriting

def row (e : FarmWriting) : Row :=
  e.toStoredFarm.row

def isListed (bounds : Option BoundingBox) (e : FarmWriting) : Bool :=
  e.deletedAt.isNone && bounds.all fun b =>
    Decimal.units e.bounds.minLng ≤ Decimal.units b.maxLng && Decimal.units b.minLng ≤ Decimal.units e.bounds.maxLng &&
      Decimal.units e.bounds.minLat ≤ Decimal.units b.maxLat && Decimal.units b.minLat ≤ Decimal.units e.bounds.maxLat

def isHeldBy (i : FarmerId) (e : FarmWriting) : Bool :=
  e.deletedAt.isNone && e.farmerId = i

end FarmWriting

structure Tables where
  farms : Std.ExtTreeMap FarmId FarmWriting
  farmers : Std.ExtTreeMap FarmerId StoredFarmer

namespace Tables

def entries (t : Tables) : List FarmWriting :=
  t.farms.toList.map (·.2)

def version? (t : Tables) (i : FarmId) : Option Signed64 :=
  t.farms[i]?.map (·.version)

def putFarm (t : Tables) (e : FarmWriting) : Tables :=
  { t with farms := t.farms.insert e.id e }

def dropFarm (t : Tables) (i : FarmId) : Tables :=
  { t with farms := t.farms.erase i }

def putFarmer (t : Tables) (r : StoredFarmer) : Tables :=
  { t with farmers := t.farmers.insert r.id r }

def breaks (t : Tables) (e : FarmWriting) : FarmRule → Bool
  | .owner => !t.farmers.contains e.farmerId
  | .area => e.area.isNegative
  | .boundary => !e.boundary.isArray
  | .metadata => !e.metadata.isObject
  | .box => !e.bounds.isOrdered

end Tables

/-- What a statement means: how it may be answered over some tables, and what it makes of them. Of several rules that
are broken any may be reported, in any words. -/
inductive Executes (t : Tables) : Statement → Answer → Tables → Prop where
  | findsFarm (i : FarmId) : Executes t (.findFarm i) (.rows (t.farms[i]?.map FarmWriting.row).toList) t
  | findsFarmer (i : FarmerId) : Executes t (.findFarmer i) (.rows (t.farmers[i]?.map StoredFarmer.row).toList) t
  | registers {i : FarmerId} (h : i ∉ t.farmers) :
      Executes t (.registerFarmer i) (.affected 1) (t.putFarmer (.new i))
  | knows {i : FarmerId} (h : i ∈ t.farmers) : Executes t (.registerFarmer i) (.affected 0) t
  | inserts {e : FarmWriting} (hfree : e.id ∉ t.farms) (hrules : ∀ rule, t.breaks e rule = false) :
      Executes t (.insertFarm e) (.affected 1) (t.putFarm e)
  | insertTaken {e : FarmWriting} (m : String) (h : e.id ∈ t.farms) :
      Executes t (.insertFarm e) (.failed (.taken m)) t
  | insertBreaks {e : FarmWriting} {rule : FarmRule} (m : String) (h : t.breaks e rule = true) :
      Executes t (.insertFarm e) (.failed (rule.failure m)) t
  | updates {e : FarmWriting} {v : Signed64} (hcurrent : t.version? e.id = some v)
      (hrules : ∀ rule, t.breaks e rule = false) : Executes t (.updateFarm e v) (.affected 1) (t.putFarm e)
  | updateBreaks {e : FarmWriting} {v : Signed64} {rule : FarmRule} (m : String)
      (hcurrent : t.version? e.id = some v) (h : t.breaks e rule = true) :
      Executes t (.updateFarm e v) (.failed (rule.failure m)) t
  | updateMisses {e : FarmWriting} {v : Signed64} (h : t.version? e.id ≠ some v) :
      Executes t (.updateFarm e v) (.affected 0) t
  | removes {i : FarmId} {v : Signed64} (hcurrent : t.version? i = some v) :
      Executes t (.removeFarm i v) (.affected 1) (t.dropFarm i)
  | removeMisses {i : FarmId} {v : Signed64} (h : t.version? i ≠ some v) :
      Executes t (.removeFarm i v) (.affected 0) t
  | farmExists (i : FarmId) : Executes t (.farmExists i) (.rows [[("exists", .truth (t.farms.contains i))]]) t
  | adjusts {d : TotalsDelta} {r q : StoredFarmer} (hr : t.farmers[d.farmerId]? = some r) (hq : r.plus? d = some q)
      (hrules : ∀ rule, q.breaks rule = false) : Executes t (.adjustFarmer d) (.affected 1) (t.putFarmer q)
  | adjustOverflows {d : TotalsDelta} {r : StoredFarmer} (hr : t.farmers[d.farmerId]? = some r)
      (hq : r.plus? d = none) : Executes t (.adjustFarmer d) (.failed .outOfRange) t
  | adjustBreaks {d : TotalsDelta} {r q : StoredFarmer} {rule : FarmerRule} (m : String)
      (hr : t.farmers[d.farmerId]? = some r) (hq : r.plus? d = some q) (h : q.breaks rule = true) :
      Executes t (.adjustFarmer d) (.failed (rule.failure m)) t
  | adjustMisses {d : TotalsDelta} (h : d.farmerId ∉ t.farmers) : Executes t (.adjustFarmer d) (.affected 0) t
  | lists (bounds : Option BoundingBox) :
      Executes t (.listActiveFarms bounds)
        (.rows ((t.entries.filter (FarmWriting.isListed bounds)).map FarmWriting.row)) t
  | locks (i : FarmerId) :
      Executes t (.lockFarmer i) (.rows (t.farmers[i]?.map fun r => [("id", .uuid r.id.uuid)]).toList) t
  | gathers {i : FarmerId} {held : List FarmWriting} (h : held.Perm (t.entries.filter (FarmWriting.isHeldBy i))) :
      Executes t (.farmerFarms i) (.rows (held.map FarmWriting.row)) t
  | sets {i : FarmerId} {sums : Totals} (h : i ∈ t.farmers)
      (hrules : ∀ rule, (StoredFarmer.ofTotals i sums).breaks rule = false) :
      Executes t (.setFarmer i sums) (.affected 1) (t.putFarmer (.ofTotals i sums))
  | setBreaks {i : FarmerId} {sums : Totals} {rule : FarmerRule} (m : String) (h : i ∈ t.farmers)
      (hrule : (StoredFarmer.ofTotals i sums).breaks rule = true) :
      Executes t (.setFarmer i sums) (.failed (rule.failure m)) t
  | setMisses {i : FarmerId} {sums : Totals} (h : i ∉ t.farmers) : Executes t (.setFarmer i sums) (.affected 0) t
  | reindexes : Executes t .reindex .nothing t
  | analyzes : Executes t .analyze .nothing t

end Sql

end FarmRegistry
