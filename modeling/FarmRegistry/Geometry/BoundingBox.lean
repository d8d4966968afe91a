import FarmRegistry.Geometry.Polygon

namespace FarmRegistry

structure BoundingBox where
  minLng : Float
  minLat : Float
  maxLng : Float
  maxLat : Float

namespace BoundingBox

/-- Of equal numbers the first is kept, so that the sign of a zero is that of its first vertex. -/
def lesser (a b : Float) : Float :=
  if Decimal.units b < Decimal.units a then b else a

def greater (a b : Float) : Float :=
  if Decimal.units a < Decimal.units b then b else a

def ofVertex (v : Vertex) : BoundingBox :=
  ⟨v.lng, v.lat, v.lng, v.lat⟩

def extend (b : BoundingBox) (v : Vertex) : BoundingBox :=
  ⟨lesser b.minLng v.lng, lesser b.minLat v.lat, greater b.maxLng v.lng, greater b.maxLat v.lat⟩

def intersects (a b : BoundingBox) : Bool :=
  Decimal.units a.minLng ≤ Decimal.units b.maxLng && Decimal.units b.minLng ≤ Decimal.units a.maxLng &&
    Decimal.units a.minLat ≤ Decimal.units b.maxLat && Decimal.units b.minLat ≤ Decimal.units a.maxLat

end BoundingBox

namespace Polygon

theorem ring_ne_nil (p : Polygon) : p.ring ≠ [] := by
  intro h
  have := p.sound
  simp [h, Ring.defect] at this

def boundingBox (p : Polygon) : BoundingBox :=
  p.ring.tail.foldl BoundingBox.extend (.ofVertex (p.ring.head p.ring_ne_nil))

end Polygon

end FarmRegistry
