import FarmRegistry.Totals.Delta

namespace FarmRegistry

inductive TotalsError where
  | negative (farmerId : FarmerId)
  | overflow (farmerId : FarmerId)
  | mismatchedFarmer (farmerId deltaFarmerId : FarmerId)
deriving DecidableEq

namespace TotalsError

def message : TotalsError → String
  | .negative farmerId => s!"rollup would drive totals for farmer {farmerId} below zero"
  | .overflow farmerId => s!"rollup overflowed totals for farmer {farmerId}"
  | .mismatchedFarmer farmerId deltaFarmerId =>
    s!"delta for farmer {deltaFarmerId} applied to farmer {farmerId}"

end TotalsError

structure Totals where
  area : Area
  farmCount : Unsigned32
deriving DecidableEq

namespace Totals

def zeroCount : Unsigned32 := ⟨0, by decide, by decide⟩

def zero : Totals := ⟨.zero, zeroCount⟩

def increment (n : Unsigned32) : Unsigned32 :=
  (Bounded.ofInt? (n.val + 1)).getD n

def addFarm (t : Totals) (f : Farm) : Except Overflow Totals :=
  (t.area.add f.area).map fun area => ⟨area, increment t.farmCount⟩

def ofFarms (farmerId : FarmerId) (farms : List Farm) : Except Overflow Totals :=
  (farms.filter fun f => f.isActive && f.farmerId = farmerId).foldlM addFarm zero

end Totals

structure Farmer where
  id : FarmerId
  totalArea : Area
  farmCount : Unsigned32
deriving DecidableEq

namespace Farmer

def new (id : FarmerId) : Farmer :=
  ⟨id, .zero, Totals.zeroCount⟩

def ofParts (id : FarmerId) (totalArea : Area) (farmCount : Int) : Except TotalsError Farmer :=
  if totalArea.isNegative then .error (.negative id)
  else
    match Bounded.ofInt? farmCount with
    | some n => .ok ⟨id, totalArea, n⟩
    | none => .error (.negative id)

def reconciled (id : FarmerId) (totals : Totals) : Farmer :=
  ⟨id, totals.area, totals.farmCount⟩

def totalAcreage (f : Farmer) : Float :=
  f.totalArea.hectares

def apply (f : Farmer) (d : TotalsDelta) : Except TotalsError Farmer :=
  if d.farmerId != f.id then .error (.mismatchedFarmer f.id d.farmerId)
  else
    match f.totalArea.add? d.area with
    | none => .error (.overflow f.id)
    | some area =>
      let count := f.farmCount.val + d.farmCount.val
      if area.isNegative || count < 0 then .error (.negative f.id)
      else
        match Bounded.ofInt? count with
        | none => .error (.overflow f.id)
        | some n => .ok ⟨f.id, area, n⟩

end Farmer

end FarmRegistry
