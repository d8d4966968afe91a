import FarmRegistry.Admin.Command
import FarmRegistry.Json.Writer
import FarmRegistry.Settings.Load
import FarmRegistry.Sql.Store
import FarmRegistry.Wire.Envelope
import FarmRegistry.Wire.Kind

namespace FarmRegistry.Admin

structure Exit where
  status : Nat
  out : List String
  err : List String

namespace Exit

def done (out : List String) : Exit :=
  ⟨0, out, []⟩

def complaint (kind cause : String) : String :=
  "Error: Custom \x7b kind: " ++ kind ++ ", error: " ++ cause ++ " \x7d"

def failed (kind cause : String) : Exit :=
  ⟨1, [], [complaint kind cause]⟩

def ofError (operation : String) (e : ServiceError) : Exit :=
  let e := e.envelope
  ⟨1, [], [e.toJson.write false, complaint "Other" (Text.quoted s!"{operation}: {e.message}")]⟩

def crashed (message : String) : Exit :=
  ⟨101, [], [message]⟩

def ofMigrationError (e : Sql.MigrationError) : Exit :=
  failed "Other" (e.kind ++ " \x7b message: " ++ Text.quoted e.cause ++ " \x7d")

end Exit

structure Task (σ : Type) where
  operation : String
  work : Service σ → Work σ ServiceError (List String)

def farmerLines (f : Farmer) : List String :=
  [s!"farmer_id={f.id}", s!"total_acreage_ha={Decimal.fixed 4 f.totalAcreage}", s!"total_area_m2={f.totalArea.val}",
    s!"farm_count={f.farmCount.val}"]

def overlapLines (pairs : List OverlapPair) : List String :=
  s!"overlap_count={pairs.length}" :: pairs.map fun p => s!"overlap={p.first},{p.second}"

def migrationLines (versions : List String) : List String :=
  s!"applied_migrations={versions.length}" :: versions.map fun v => s!"migration={v}"

namespace Command

def task? {σ : Type} : Command → Option (Task σ)
  | .migrate => none
  | .detectOverlaps => some ⟨"detect overlaps", fun s => overlapLines <$> s.allOverlaps⟩
  | .rebuildIndex =>
    some ⟨"rebuild spatial index", fun s => (fun _ => ["status=rebuilt"]) <$> s.rebuildIndex⟩
  | .registerFarmer i => some ⟨"register farmer", fun s => farmerLines <$> s.registerFarmer i⟩
  | .reconcile i => some ⟨"reconcile farmer", fun s => farmerLines <$> s.reconcileFarmer i⟩

end Command

structure Surroundings (δ : Type) where
  environment : List (String × String)
  file : Option String
  link : String → Sql.Link δ
  clock : Nat → Timestamp

namespace Surroundings

variable {δ : Type} (env : Surroundings δ)

def migrate (pool : Sql.PoolSettings) (s : δ) : Exit × δ :=
  match Sql.migrate (env.link pool.databaseUrl) s with
  | (.ok versions, c) => (.done (migrationLines versions), c.state)
  | (.error e, c) => (.ofMigrationError e, c.state)

def perform (settings : Settings) (pool : Sql.PoolSettings) (t : Task δ) (s : δ) : Exit × δ :=
  if pool.maxSize = 0 then (.crashed "max_size must be greater than zero!", s)
  else
    match pool.start (env.link pool.databaseUrl) with
    | .error e => (.failed "Other" (Text.quoted s!"create database pool: {e.message}"), s)
    | .ok (store, _) =>
      match (t.work ⟨store, settings.service, Jitter.byAttempt, env.clock⟩).outcome (.ofStore s) with
      | (.ok out, w) => (.done out, w.store)
      | (.error (.refused e), w) => (.ofError t.operation e, w.store)
      | (.error (.overflow o), w) => (.crashed o.message, w.store)

def run (words : List String) (s : δ) : Exit × δ :=
  match Invocation.parse? words with
  | none => (.failed "Other" (Text.quoted "unusable arguments"), s)
  | some invocation =>
    match Settings.load [] env.environment env.file with
    | none => (.failed "Other" (Text.quoted "load settings: unusable value"), s)
    | some settings =>
      let settings := { settings with databaseUrl := invocation.databaseUrl <|> settings.databaseUrl }
      match settings.pool?, invocation.command.task? with
      | none, _ => (.failed "InvalidInput" (Text.quoted "set --database-url or FARMLAND_DATABASE_URL"), s)
      | some pool, none => env.migrate pool s
      | some pool, some t => env.perform settings pool t s

end Surroundings

end FarmRegistry.Admin
