import FarmRegistry.Registry.Error
import FarmRegistry.Sql.Datum
import FarmRegistry.Wire.Farm

namespace FarmRegistry.Sql

structure StoredFarm where
  id : FarmId
  farmerId : FarmerId
  boundary : Json
  area : Area
  metadata : Json
  version : Signed64
  deletedAt : Option Timestamp
  createdAt : Timestamp
  updatedAt : Timestamp

structure FarmWriting extends StoredFarm where
  bounds : BoundingBox

structure StoredFarmer where
  id : FarmerId
  totalArea : Area
  farmCount : Signed64

namespace StoredFarm

def ofFarm (f : Farm) : StoredFarm :=
  ⟨f.id, f.farmerId, f.polygon.toJson, f.area, f.metadata.toJson, f.version, f.status.deletion, f.createdAt,
    f.updatedAt⟩

def ofRow? (r : Row) : Option StoredFarm := do
  return ⟨⟨← r.uuid? "id"⟩, ⟨← r.uuid? "farmer_id"⟩, ← r.json? "boundary", ⟨← r.integer? "area_m2"⟩,
    ← r.json? "metadata", ← r.integer? "version", r.instant? "deleted_at", ← r.instant? "created_at",
    ← r.instant? "updated_at"⟩

def toFarm (r : StoredFarm) : Except StoreError Farm :=
  match Polygon.ofJson r.boundary with
  | .error e => .error (.query s!"decode boundary of farm {r.id}: {e.message}")
  | .ok polygon =>
    match Metadata.ofJson? r.metadata with
    | none => .error (.query s!"decode metadata of farm {r.id}: {Metadata.refusal}")
    | some metadata =>
      .ok ⟨r.id, r.farmerId, polygon, r.area, .ofDeletion r.deletedAt, metadata, r.version, r.createdAt,
        r.updatedAt⟩

end StoredFarm

namespace FarmWriting

def ofFarm (f : Farm) : FarmWriting :=
  ⟨.ofFarm f, f.boundingBox⟩

def params (e : FarmWriting) : Row :=
  [("id", .uuid e.id.uuid), ("farmer_id", .uuid e.farmerId.uuid), ("boundary", .json e.boundary),
    ("area_m2", .integer e.area.squareMetres), ("min_lng", .double e.bounds.minLng),
    ("min_lat", .double e.bounds.minLat), ("max_lng", .double e.bounds.maxLng),
    ("max_lat", .double e.bounds.maxLat), ("metadata", .json e.metadata), ("version", .integer e.version),
    ("deleted_at", .ofTime? e.deletedAt), ("created_at", .ofTime e.createdAt), ("updated_at", .ofTime e.updatedAt)]

end FarmWriting

namespace StoredFarmer

def ofRow? (r : Row) : Option StoredFarmer := do
  return ⟨⟨← r.uuid? "id"⟩, ⟨← r.integer? "total_area_m2"⟩, ← r.integer? "farm_count"⟩

def toFarmer (r : StoredFarmer) : Except StoreError Farmer :=
  (Farmer.ofParts r.id r.totalArea r.farmCount.val).mapError fun e => .query e.message

end StoredFarmer

end FarmRegistry.Sql
