import FarmRegistry.Farm.Basic
import FarmRegistry.Geometry.Overlap

namespace FarmRegistry

structure OverlapPair where
  first : FarmId
  second : FarmId
  intersects : Bool
deriving DecidableEq

namespace OverlapPair

def between (a b : FarmId) : OverlapPair :=
  if a.rank ≤ b.rank then ⟨a, b, true⟩ else ⟨b, a, true⟩

def isAtMost (p q : OverlapPair) : Bool :=
  if p.first = q.first then
    if p.second = q.second then !p.intersects || q.intersects else p.second.rank < q.second.rank
  else p.first.rank < q.first.rank

end OverlapPair

namespace Farm

def sharesGround (f : Farm) (p : Polygon) : Bool :=
  f.boundingBox.intersects p.boundingBox && p.sharesGround f.polygon

def overlapping (candidate : Polygon) (exclude : Option FarmId) (farms : List Farm) : List FarmId :=
  let hits := farms.filter fun f => f.isActive && some f.id != exclude && f.sharesGround candidate
  sortDistinct (fun a b => a.rank ≤ b.rank) (hits.map Farm.id)

def westEdge (f : Farm) : Int :=
  Decimal.units f.boundingBox.minLng

def eastEdge (f : Farm) : Int :=
  Decimal.units f.boundingBox.maxLng

def westRank (f : Farm) : Int :=
  Decimal.rank f.boundingBox.minLng

def pairWith? (f g : Farm) : Option OverlapPair :=
  if f.id != g.id && f.boundingBox.intersects g.boundingBox && f.polygon.sharesGround g.polygon then
    some (.between f.id g.id)
  else none

/-- The pairs among farms in order of their west edges: past the first farm that begins east of another's
end, none meets that one. -/
def sweep : List Farm → List OverlapPair
  | [] => []
  | f :: rest => (rest.takeWhile fun g => g.westEdge ≤ f.eastEdge).filterMap f.pairWith? ++ sweep rest

def allOverlaps (farms : List Farm) : List OverlapPair :=
  let active := (farms.filter isActive).mergeSort fun f g => f.westRank ≤ g.westRank
  sortDistinct OverlapPair.isAtMost (sweep active)

end Farm

end FarmRegistry
