import FarmRegistry.Farm.Basic

namespace FarmRegistry

structure TotalsDelta where
  farmerId : FarmerId
  area : Area
  farmCount : Signed32
deriving DecidableEq

namespace TotalsDelta

def isZero (d : TotalsDelta) : Bool :=
  d.area.val = 0 && d.farmCount.val = 0

def noFarm : Signed32 := ⟨0, by decide, by decide⟩
def oneFarm : Signed32 := ⟨1, by decide, by decide⟩
def oneFarmLess : Signed32 := ⟨-1, by decide, by decide⟩

def loss (farmerId : FarmerId) (area : Area) : Except Overflow TotalsDelta :=
  (Area.zero.sub area).map fun a => ⟨farmerId, a, oneFarmLess⟩

def gain (farmerId : FarmerId) (area : Area) : TotalsDelta :=
  ⟨farmerId, area, oneFarm⟩

def move (loss : TotalsDelta) (farmerId : FarmerId) (area : Area) : Except Overflow (List TotalsDelta) :=
  if loss.farmerId = farmerId then (loss.area.add area).map fun a => [⟨farmerId, a, noFarm⟩]
  else if loss.farmerId.rank < farmerId.rank then .ok [loss, gain farmerId area]
  else .ok [gain farmerId area, loss]

end TotalsDelta

def Farm.contribution (f : Farm) : Option TotalsDelta :=
  if f.isActive then some (.gain f.farmerId f.area) else none

/-- The changes that take totals from reflecting one state of a farm to reflecting another, in order of
farmer and without those that change nothing. -/
def TotalsDelta.between (before after : Option Farm) : Except Overflow (List TotalsDelta) := do
  let deltas ←
    match before.bind Farm.contribution, after.bind Farm.contribution with
    | none, none => pure []
    | none, some d => pure [d]
    | some d, none => return [← TotalsDelta.loss d.farmerId d.area].filter (!·.isZero)
    | some d, some e => do TotalsDelta.move (← TotalsDelta.loss d.farmerId d.area) e.farmerId e.area
  return deltas.filter (!·.isZero)

end FarmRegistry
