import FarmRegistry.Proofs.Service.Operations
import FarmRegistry.Proofs.Store.Balance
import Mathlib.Data.Finset.Insert

namespace FarmRegistry

/-- A registry that keeps no totals: who is registered, and the farms. -/
structure Cadastre where
  farmers : Finset FarmerId
  farms : Std.ExtTreeMap FarmId Farm

def Farm.successor (f : Farm) : Signed64 :=
  (Bounded.ofInt? (f.version.val + 1)).getD f.version

namespace Cadastre

open MemoryStore

abbrev Step (α : Type) := Except (Stop ServiceError) α × Cadastre

variable (c : Cadastre) {α : Type}

def refuse (e : ServiceError) : Step α :=
  (.error (.refused e), c)

def onGround (boundary : Ring) (next : Polygon → Step α) : Step α :=
  match Polygon.ofRing boundary with
  | .error e => c.refuse (.geometry e)
  | .ok p => next p

def onFarm (i : FarmId) (next : Farm → Step α) : Step α :=
  match c.farms[i]? with
  | none => c.refuse (.farmNotFound i)
  | some f => next f

section Choices

variable {c}

theorem onGround_error {boundary : Ring} {next : Polygon → Step α} {e : RingDefect}
    (h : Polygon.ofRing boundary = .error e) : c.onGround boundary next = c.refuse (.geometry e) := by
  rw [onGround, h]

theorem onGround_ok {boundary : Ring} {next : Polygon → Step α} {p : Polygon} (h : Polygon.ofRing boundary = .ok p) :
    c.onGround boundary next = next p := by
  rw [onGround, h]

theorem onFarm_none {i : FarmId} {next : Farm → Step α} (h : c.farms[i]? = none) :
    c.onFarm i next = c.refuse (.farmNotFound i) := by
  rw [onFarm, h]

theorem onFarm_some {i : FarmId} {next : Farm → Step α} {f : Farm} (h : c.farms[i]? = some f) :
    c.onFarm i next = next f := by
  rw [onFarm, h]

end Choices

def summed (i : FarmerId) : Except (Stop ServiceError) Farmer :=
  Stop.ofOverflow ((Totals.ofFarms i (farmsOf c.farms)).map (Farmer.reconciled i))

def readFarmer (i : FarmerId) : Step Farmer :=
  if i ∈ c.farmers then (c.summed i, c) else c.refuse (.farmerNotFound i)

def meeting (p : Polygon) (exclude : Option FarmId) : List FarmId :=
  (c.farms.toList.filter fun (i, f) => f.isActive && some i != exclude && f.polygon.interiorsOverlap p).map Prod.fst

def pairs : List OverlapPair :=
  c.farms.toList.flatMap fun (i, f) => c.farms.toList.filterMap fun (j, g) =>
    if i.rank < j.rank && f.isActive && g.isActive && f.polygon.interiorsOverlap g.polygon then some ⟨i, j, true⟩
    else none

def inTheWay (policy : OverlapPolicy) (f : Farm) : List FarmId :=
  if policy = .reject ∧ f.isActive then c.meeting f.polygon (some f.id) else []

def put (inTheWay : List FarmId) (f : Farm) : Step Farm :=
  if inTheWay ≠ [] then c.refuse (.overlapConflict inTheWay)
  else if f.farmerId ∉ c.farmers then c.refuse (.farmerNotFound f.farmerId)
  else (.ok f, { c with farms := c.farms.insert f.id f })

def settle (policy : OverlapPolicy) (f : Farm) : Step Farm :=
  c.put (c.inTheWay policy f) f

def perform (policy : OverlapPolicy) (now : Timestamp) : (o : Operation) → Step o.Answer
  | .registerFarmer i =>
    let d := { c with farmers := insert i c.farmers }
    (d.summed i, d)
  | .create i r => c.onGround r.boundary fun p => c.settle policy (.create i r.farmerId p r.metadata now)
  | .reshape r => c.onGround r.boundary fun p => c.onFarm r.farmId fun f =>
    c.settle policy { f with version := f.successor, updatedAt := now, polygon := p, area := .ofPolygon p }
  | .retire i => c.onFarm i fun f =>
    if f.isActive then c.put [] { f with version := f.successor, updatedAt := now, status := .deleted now }
    else (.ok f, c)
  | .restore i => c.onFarm i fun f =>
    if f.isActive then (.ok f, c)
    else c.settle policy { f with version := f.successor, updatedAt := now, status := .active }
  | .erase i => c.onFarm i fun _ => (.ok (), { c with farms := c.farms.erase i })
  | .reassign r => c.onFarm r.farmId fun f =>
    if f.farmerId = r.farmerId then (.ok f, c)
    else c.put [] { f with version := f.successor, updatedAt := now, farmerId := r.farmerId }
  | .reconcileFarmer i => c.readFarmer i
  | .farmer i => c.readFarmer i
  | .farm i => c.onFarm i fun f => (.ok f, c)
  | .overlappingFarms r => c.onGround r.boundary fun p => (.ok (c.meeting p r.excludeFarmId), c)
  | .allOverlaps => (.ok c.pairs, c)
  | .rebuildIndex => (.ok (), c)

end Cadastre

def MemoryStore.cadastre (s : MemoryStore) : Cadastre :=
  ⟨s.farmers.keys.toFinset, s.farms⟩

end FarmRegistry
