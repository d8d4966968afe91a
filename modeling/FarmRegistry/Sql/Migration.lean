import FarmRegistry.Sql.Pool
import FarmRegistry.Sql.Session

namespace FarmRegistry.Sql

namespace Migration

def createRegistryScript : String :=
  "CREATE TABLE farmers (
    id UUID PRIMARY KEY,
    total_area_m2 BIGINT NOT NULL DEFAULT 0,
    farm_count BIGINT NOT NULL DEFAULT 0,
    created_at TIMESTAMPTZ NOT NULL DEFAULT now(),
    updated_at TIMESTAMPTZ NOT NULL DEFAULT now(),
    CONSTRAINT farmers_total_area_non_negative CHECK (total_area_m2 >= 0),
    CONSTRAINT farmers_farm_count_non_negative CHECK (farm_count >= 0)
);

CREATE TABLE farms (
    id UUID PRIMARY KEY,
    farmer_id UUID NOT NULL REFERENCES farmers (id),
    boundary JSONB NOT NULL,
    area_m2 BIGINT NOT NULL,
    min_lng DOUBLE PRECISION NOT NULL,
    min_lat DOUBLE PRECISION NOT NULL,
    max_lng DOUBLE PRECISION NOT NULL,
    max_lat DOUBLE PRECISION NOT NULL,
    metadata JSONB NOT NULL DEFAULT '\x7b\x7d'::jsonb,
    version BIGINT NOT NULL DEFAULT 1,
    deleted_at TIMESTAMPTZ,
    created_at TIMESTAMPTZ NOT NULL DEFAULT now(),
    updated_at TIMESTAMPTZ NOT NULL DEFAULT now(),
    CONSTRAINT farms_area_non_negative CHECK (area_m2 >= 0),
    CONSTRAINT farms_boundary_is_array CHECK (jsonb_typeof(boundary) = 'array'),
    CONSTRAINT farms_metadata_is_object CHECK (jsonb_typeof(metadata) = 'object'),
    CONSTRAINT farms_bbox_ordered CHECK (min_lng <= max_lng AND min_lat <= max_lat)
);

CREATE INDEX farms_farmer_id_idx ON farms (farmer_id);

-- Candidate lookup for overlap checks only ever considers active farms.
CREATE INDEX farms_active_bbox_idx
    ON farms (min_lng, max_lng, min_lat, max_lat)
    WHERE deleted_at IS NULL;
"

def createRegistry : Migration :=
  ⟨"2026-03-01-000000_create_farm_registry", "20260301000000", createRegistryScript⟩

def all : List Migration :=
  [createRegistry]

end Migration

open Session

variable {δ : Type} (db : Database δ)

def applyMigration (m : Migration) : Session δ String Unit :=
  transaction db QueryError.message do
    adapt (fun e => s!"Failed to run {m.name} with: {e.message}") (act db (.runMigration m))
    adapt QueryError.message (act db (.recordMigration m.version))

def applyPending : Session δ String (List String) := do
  adapt QueryError.message (act db .createMigrationTable)
  let applied ← adapt QueryError.message (all db (·.text? "version") .listMigrations)
  let pending := Migration.all.filter fun m => !applied.contains m.version
  pending.forM (applyMigration db)
  let versions := pending.map Migration.version
  tell (.migrationsApplied versions)
  return versions

def migrate (link : Link δ) (s : δ) :
    Except MigrationError (List String) × Connection δ :=
  match link with
  | .error m => (.error (.connect m), ⟨s, []⟩)
  | .ok db =>
    match (applyPending db).outcome ⟨s, []⟩ with
    | (.ok versions, c) => (.ok versions, c)
    | (.error (.refused m), c) => (.error (.apply m), c)
    | (.error (.overflow o), c) => (.error (.apply o.message), c)

end FarmRegistry.Sql
