import FarmRegistry.Farm.Overlaps
import FarmRegistry.Registry.Store
import FarmRegistry.Service.Config
import FarmRegistry.Service.Intent

namespace FarmRegistry

structure Service (σ : Type) where
  store : Store σ
  config : ServiceConfig
  jitter : Jitter
  clock : Nat → Timestamp

/-- The store and what a service has done so far: clock readings, delays slept, events told. -/
structure World (σ : Type) where
  store : σ
  readings : Nat
  sleeps : List Delay
  events : List Event

def World.ofStore {σ : Type} (s : σ) : World σ :=
  ⟨s, 0, [], []⟩

/-- A computation of a service. What it did to the world stays when it stops. -/
abbrev Work (σ ε α : Type) := ExceptT (Stop ε) (StateM (World σ)) α

inductive Setback where
  | final (e : ServiceError)
  | store (e : StoreError)

namespace Work

variable {σ ε δ α : Type}

def outcome (w : Work σ ε α) (s : World σ) : Except (Stop ε) α × World σ :=
  w.run.run s

def settled (r : Except (Stop ε) α) : Work σ ε α :=
  ExceptT.mk (pure r)

def adapt (f : ε → δ) (w : Work σ ε α) : Work σ δ α :=
  ExceptT.mk fun s =>
    let (r, s) := w.outcome s
    (r.mapError (Stop.map f), s)

def attempt (w : Work σ ε α) : Work σ δ (Except ε α) :=
  ExceptT.mk fun s =>
    match w.outcome s with
    | (.ok a, s) => (.ok (.ok a), s)
    | (.error (.refused e), s) => (.ok (.error e), s)
    | (.error (.overflow o), s) => (.error (.overflow o), s)

def refuse (e : ε) : Work σ ε α :=
  throw (.refused e)

def tell (e : Event) : Work σ ε Unit :=
  modify fun s => { s with events := s.events ++ [e] }

def sleep (d : Delay) : Work σ ε Unit :=
  modify fun s => { s with sleeps := s.sleeps ++ [d] }

end Work

namespace Service

variable {σ ε : Type}

open Work

def ask (s : Service σ) (c : Call) : Work σ StoreError c.Answer :=
  ExceptT.mk fun w =>
    let r := s.store c w.store
    (r.outcome, { w with store := r.state, events := w.events ++ r.events })

def now (s : Service σ) : Work σ ε Timestamp := do
  let w ← get
  set { w with readings := w.readings + 1 }
  return s.clock w.readings

def overlapping (s : Service σ) (p : Polygon) (exclude : Option FarmId) : Work σ ServiceError (List FarmId) := do
  let candidates ← adapt ServiceError.ofStore (s.ask (.listActiveFarms (some p.boundingBox)))
  return Farm.overlapping p exclude candidates

def checkGround (s : Service σ) (f : Farm) : Work σ ServiceError Unit := do
  if s.config.overlaps = .reject then
    match ← s.overlapping f.polygon (some f.id) with
    | [] => return
    | farmIds => refuse (.overlapConflict farmIds)

def current (s : Service σ) (m : Intent) : Work σ StoreError (Option Farm) :=
  match m with
  | .create _ => pure none
  | m => s.ask (.findFarm m.farmId)

def tryOnce (s : Service σ) (m : Intent) : Work σ Setback (Option Farm) := do
  let farm ← adapt .store (s.current m)
  match ← adapt .final (settled (m.plan farm (← s.now))) with
  | .unchanged f =>
    tell (.alreadyInState m.name f.id)
    return some f
  | .commit change result =>
    if m.mayTakeGround then
      if let some f := result.filter Farm.isActive then
        adapt .final (s.checkGround f)
    adapt .store (s.ask (.commit change))
    tell (.changeCommitted m.name m.farmId result change.deltas.length)
    return result

def repair (s : Service σ) (farmerId : FarmerId) : Work σ ServiceError Unit := do
  let farmer ← adapt ServiceError.ofStore (s.ask (.reconcileFarmer farmerId))
  tell (.totalsRepaired farmerId farmer.totalAcreage farmer.farmCount.val.toNat)

def backOff (s : Service σ) (m : Intent) (conflicts : Nat) (detail : String) : Work σ ServiceError Unit := do
  let delay := s.jitter (s.config.retry.delayAfter conflicts) conflicts (← s.now)
  tell (.raceLost m.name m.farmId conflicts (min delay.milliseconds delayLimit) detail)
  sleep delay

/-- Tries an intent until it succeeds or fails for good, after so many conflicts and perhaps a repair. Each
conflict uses up one of the attempts of the policy, and there is one repair. -/
def retry (s : Service σ) (m : Intent) (conflicts : Nat) (repaired : Bool) : Work σ ServiceError (Option Farm) := do
  match ← attempt (s.tryOnce m) with
  | .ok farm => return farm
  | .error (.final e) => refuse e
  | .error (.store (.conflict detail)) =>
    if _ : s.config.retry.attempts ≤ conflicts + 1 then
      tell (.changeAbandoned m.name m.farmId (conflicts + 1) detail)
      refuse (.concurrencyConflict (conflicts + 1))
    else
      s.backOff m (conflicts + 1) detail
      s.retry m (conflicts + 1) repaired
  | .error (.store (.negativeAggregate farmerId)) =>
    tell (.totalsNegative m.name m.farmId farmerId)
    if _ : repaired then refuse (.aggregateConsistency farmerId)
    else
      s.repair farmerId
      s.retry m conflicts true
  | .error (.store e) => refuse (.ofStore e)
termination_by (s.config.retry.attempts - conflicts, if repaired then 0 else 1)
decreasing_by all_goals grind

def run (s : Service σ) (m : Intent) : Work σ ServiceError (Option Farm) :=
  s.retry m 0 false

end Service

end FarmRegistry
