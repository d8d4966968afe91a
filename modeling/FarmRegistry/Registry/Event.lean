import FarmRegistry.Farm.Basic

namespace FarmRegistry

inductive Level where
  | debug
  | info
  | warn
  | error
deriving DecidableEq

def Level.name : Level → String
  | .debug => "DEBUG"
  | .info => "INFO"
  | .warn => "WARN"
  | .error => "ERROR"

inductive FieldValue where
  | integer (n : Int)
  | decimal (x : Float)
  | text (s : String)

structure Entry where
  level : Level
  message : String
  fields : List (String × FieldValue)

inductive Event where
  | farmerRegistered (farmerId : FarmerId)
  | changeApplied (farmId : FarmId) (deltas : Nat)
  | indexUnneeded
  | changeStored (farmId : FarmId) (deltas : Nat)
  | totalsStored (farmerId : FarmerId) (squareMetres : Int) (farmCount : Nat)
  | tableReindexed (index : String)
  | statementFailed (kind detail : String) (constraint : Option String)
  | resultUnusable (detail : String)
  | poolReady (maxSize : Nat) (minIdle : Option Nat)
  | migrationsApplied (versions : List String)
  | alreadyInState (operation : String) (farmId : FarmId)
  | changeCommitted (operation : String) (farmId : FarmId) (result : Option Farm) (deltas : Nat)
  | changeAbandoned (operation : String) (farmId : FarmId) (attempts : Nat) (detail : String)
  | raceLost (operation : String) (farmId : FarmId) (attempt delayMs : Nat) (detail : String)
  | totalsNegative (operation : String) (farmId : FarmId) (farmerId : FarmerId)
  | totalsRepaired (farmerId : FarmerId) (hectares : Float) (farmCount : Nat)
  | auditFinished (activeFarms pairs : Nat)
  | farmerReconciled (farmerId : FarmerId) (hectares : Float) (farmCount : Nat)
  | indexRebuilt

namespace Event

def optionText (value : Option String) : String :=
  match value with
  | some s => s!"Some({s})"
  | none => "None"

def farmText (farmId : FarmId) : String × FieldValue :=
  ("farm_id", .text (toString farmId))

def farmerText (farmerId : FarmerId) : String × FieldValue :=
  ("farmer_id", .text (toString farmerId))

def totalFields (farmerId : FarmerId) (hectares : Float) (farmCount : Nat) : List (String × FieldValue) :=
  [farmerText farmerId, ("total_acreage_ha", .decimal hectares), ("farm_count", .integer farmCount)]

def fields : Event → List (String × FieldValue)
  | farmerRegistered farmerId => [farmerText farmerId]
  | changeApplied farmId deltas => [farmText farmId, ("rollups", .integer deltas)]
  | indexUnneeded => []
  | changeStored farmId deltas => [farmText farmId, ("rollups", .integer deltas)]
  | totalsStored farmerId squareMetres farmCount =>
    [farmerText farmerId, ("total_area_m2", .integer squareMetres), ("farm_count", .integer farmCount)]
  | tableReindexed index => [("index", .text index)]
  | statementFailed kind detail constraint =>
    [("kind", .text kind), ("detail", .text detail),
      ("constraint", .text (optionText (constraint.map Text.quoted)))]
  | resultUnusable detail => [("error_type", .text "diesel::result::Error"), ("error", .text detail)]
  | poolReady maxSize minIdle =>
    [("max_size", .integer maxSize), ("min_idle", .text (optionText (minIdle.map toString)))]
  | migrationsApplied versions =>
    [("applied", .integer versions.length),
      ("versions", .text ("[" ++ ", ".intercalate (versions.map Text.quoted) ++ "]"))]
  | alreadyInState operation farmId => [("operation", .text operation), farmText farmId]
  | changeCommitted operation farmId result deltas =>
    [("operation", .text operation), farmText farmId,
      ("farmer_id", .text (optionText (result.map fun f => s!"FarmerId({f.farmerId})"))),
      ("area_ha", .text (optionText (result.map fun f => Decimal.Layout.inspected.render f.area.hectares))),
      ("rollups", .integer deltas)]
  | changeAbandoned operation farmId attempts detail =>
    [("operation", .text operation), farmText farmId, ("attempts", .integer attempts), ("detail", .text detail)]
  | raceLost operation farmId attempt delayMs detail =>
    [("operation", .text operation), farmText farmId, ("attempt", .integer attempt),
      ("delay_ms", .integer delayMs), ("detail", .text detail)]
  | totalsNegative operation farmId farmerId =>
    [("operation", .text operation), farmText farmId, farmerText farmerId]
  | totalsRepaired farmerId hectares farmCount => totalFields farmerId hectares farmCount
  | auditFinished activeFarms pairs =>
    [("active_farms", .integer activeFarms), ("overlapping_pairs", .integer pairs)]
  | farmerReconciled farmerId hectares farmCount => totalFields farmerId hectares farmCount
  | indexRebuilt => []

def message : Event → String
  | farmerRegistered _ => "farmer registered"
  | changeApplied _ _ => "in-memory farm change applied"
  | indexUnneeded => "in-memory farm store scans farms directly; nothing to rebuild"
  | changeStored _ _ => "farm change committed"
  | totalsStored _ _ _ => "farmer totals reconciled"
  | tableReindexed _ => "spatial index rebuilt"
  | statementFailed _ _ _ => "diesel operation failed"
  | resultUnusable _ => "diesel operation failed"
  | poolReady _ _ => "farm store connection pool ready"
  | migrationsApplied _ => "schema migrations applied"
  | alreadyInState _ _ => "farm already in requested state"
  | changeCommitted _ _ _ _ => "farm change committed"
  | changeAbandoned _ _ _ _ => "farm change abandoned after repeated write conflicts"
  | raceLost _ _ _ _ _ => "farm change lost a write race; retrying"
  | totalsNegative _ _ _ => "rollup would drive farmer totals negative"
  | totalsRepaired _ _ _ => "reconciled farmer totals; retrying farm change"
  | auditFinished _ _ => "overlap audit finished"
  | farmerReconciled _ _ _ => "farmer totals reconciled"
  | indexRebuilt => "farm spatial index rebuilt"

def level : Event → Level
  | farmerRegistered _ => .debug
  | changeApplied _ _ => .debug
  | indexUnneeded => .debug
  | changeStored _ _ => .debug
  | statementFailed _ _ _ => .debug
  | resultUnusable _ => .debug
  | alreadyInState _ _ => .debug
  | changeAbandoned _ _ _ _ => .warn
  | raceLost _ _ _ _ _ => .warn
  | totalsRepaired _ _ _ => .warn
  | totalsNegative _ _ _ => .error
  | _ => .info

def entry (e : Event) : Entry :=
  ⟨e.level, e.message, e.fields⟩

end Event

end FarmRegistry
