import FarmRegistry.Totals.Farmer
import FarmRegistry.Sql.Record

namespace FarmRegistry.Sql

structure Migration where
  name : String
  version : String
  script : String
deriving DecidableEq

inductive Statement where
  | begin
  | commit
  | rollback
  | findFarm (farmId : FarmId)
  | findFarmer (farmerId : FarmerId)
  | registerFarmer (farmerId : FarmerId)
  | insertFarm (entry : FarmWriting)
  | updateFarm (entry : FarmWriting) (expected : Signed64)
  | removeFarm (farmId : FarmId) (expected : Signed64)
  | farmExists (farmId : FarmId)
  | adjustFarmer (delta : TotalsDelta)
  | listActiveFarms (bounds : Option BoundingBox)
  | lockFarmer (farmerId : FarmerId)
  | farmerFarms (farmerId : FarmerId)
  | setFarmer (farmerId : FarmerId) (totals : Totals)
  | reindex
  | analyze
  | createMigrationTable
  | listMigrations
  | runMigration (migration : Migration)
  | recordMigration (version : String)

namespace Statement

def name : Statement → String
  | begin => "begin"
  | commit => "commit"
  | rollback => "rollback"
  | findFarm _ => "find_farm"
  | findFarmer _ => "find_farmer"
  | registerFarmer _ => "register_farmer"
  | insertFarm _ => "insert_farm"
  | updateFarm _ _ => "update_farm"
  | removeFarm _ _ => "remove_farm"
  | farmExists _ => "farm_exists"
  | adjustFarmer _ => "adjust_farmer"
  | listActiveFarms _ => "list_active_farms"
  | lockFarmer _ => "lock_farmer"
  | farmerFarms _ => "farmer_farms"
  | setFarmer _ _ => "set_farmer"
  | reindex => "reindex"
  | analyze => "analyze"
  | createMigrationTable => "create_migration_table"
  | listMigrations => "list_migrations"
  | runMigration m => m.script
  | recordMigration _ => "record_migration"

def boxParams (b : BoundingBox) : Row :=
  [("max_lng", .double b.maxLng), ("min_lng", .double b.minLng), ("max_lat", .double b.maxLat),
    ("min_lat", .double b.minLat)]

def wide (n : Int) (h : -9223372036854775808 ≤ n ∧ n ≤ 9223372036854775807) : Datum :=
  .integer ⟨n, h.1, h.2⟩

def params : Statement → Row
  | findFarm i => [("id", .uuid i.uuid)]
  | findFarmer i => [("id", .uuid i.uuid)]
  | registerFarmer i => [("id", .uuid i.uuid)]
  | insertFarm e => e.params
  | updateFarm e expected => e.params ++ [("expected_version", .integer expected)]
  | removeFarm i expected => [("id", .uuid i.uuid), ("expected_version", .integer expected)]
  | farmExists i => [("id", .uuid i.uuid)]
  | adjustFarmer d =>
    [("area_delta", .integer d.area.squareMetres),
      ("count_delta", wide d.farmCount.val (by have := d.farmCount.lo_le; have := d.farmCount.le_hi; omega)),
      ("id", .uuid d.farmerId.uuid)]
  | listActiveFarms bounds => (bounds.map boxParams).getD []
  | lockFarmer i => [("id", .uuid i.uuid)]
  | farmerFarms i => [("farmer_id", .uuid i.uuid)]
  | setFarmer i t =>
    [("total_area_m2", .integer t.area.squareMetres),
      ("farm_count", wide t.farmCount.val (by have := t.farmCount.lo_le; have := t.farmCount.le_hi; omega)),
      ("id", .uuid i.uuid)]
  | recordMigration version => [("version", .text version)]
  | _ => []

end Statement

end FarmRegistry.Sql
