import FarmRegistry.Geometry.BoundingBox
import FarmRegistry.Geometry.Winding

namespace FarmRegistry

structure Share where
  num : Int
  den : Int
deriving DecidableEq

namespace Share

def isBefore (s t : Share) : Bool :=
  s.num * t.den < t.num * s.den

def isProper (s : Share) : Bool :=
  0 < s.num && s.num < s.den

def positive (s : Share) : Share :=
  if s.den < 0 then ⟨-s.num, -s.den⟩ else s

def halfway (s t : Share) : Share :=
  ⟨s.num * t.den + t.num * s.den, 2 * (s.den * t.den)⟩

end Share

structure Place where
  x : Int
  y : Int
  w : Int

namespace Place

def along (s : Segment) (part : Share) : Place :=
  ⟨s.start.x * part.den + (s.finish.x - s.start.x) * part.num,
    s.start.y * part.den + (s.finish.y - s.start.y) * part.num, part.den⟩

def turn (a b : Point) (p : Place) : Int :=
  (b.x - a.x) * (p.y - a.y * p.w) - (b.y - a.y) * (p.x - a.x * p.w)

def isOn (p : Place) (s : Segment) : Bool :=
  s.minX * p.w ≤ p.x && p.x ≤ s.maxX * p.w && s.minY * p.w ≤ p.y && p.y ≤ s.maxY * p.w &&
    turn s.start s.finish p = 0

def isWestOf (p : Place) (s : Segment) : Bool :=
  if s.start.y * p.w ≤ p.y && p.y < s.finish.y * p.w then 0 < turn s.start s.finish p
  else if s.finish.y * p.w ≤ p.y && p.y < s.start.y * p.w then turn s.start s.finish p < 0
  else false

def isOnBoundary (p : Place) (edges : List Segment) : Bool :=
  edges.any p.isOn

def isInside (p : Place) (edges : List Segment) : Bool :=
  !p.isOnBoundary edges && (edges.filter p.isWestOf).length % 2 = 1

end Place

namespace Segment

def cuts (s t : Segment) : List Share :=
  let dx := s.finish.x - s.start.x
  let dy := s.finish.y - s.start.y
  let ex := t.finish.x - t.start.x
  let ey := t.finish.y - t.start.y
  let across := dx * ey - dy * ex
  if across = 0 then
    if Point.turn s.start s.finish t.start = 0 then
      [t.start, t.finish].map fun p =>
        ⟨(p.x - s.start.x) * dx + (p.y - s.start.y) * dy, dx * dx + dy * dy⟩
    else []
  else
    [Share.positive ⟨(t.start.x - s.start.x) * ey - (t.start.y - s.start.y) * ex, across⟩]

def properCuts (edges : List Segment) (s : Segment) : List Share :=
  (edges.filter s.boxesMeet).flatMap fun t => (s.cuts t).filter Share.isProper

def middles (edges : List Segment) (s : Segment) : List Place :=
  let stops := ((properCuts edges s).mergeSort fun a b => !b.isBefore a) ++ [⟨1, 1⟩]
  List.zipWith (fun a b => Place.along s (a.halfway b)) (⟨0, 1⟩ :: stops) stops

end Segment

namespace Polygon

def edges (p : Polygon) : List Segment :=
  Ring.edges p.exterior.corners

def enters (a b : List Segment) : Bool :=
  (a.flatMap (Segment.middles b)).any (Place.isInside · b)

def follows (a b : List Segment) : Bool :=
  (a.flatMap (Segment.middles b)).all (Place.isOnBoundary · b)

/-- Whether two parcels share ground: a boundary of one runs inside the other, or the boundaries are the
same. Parcels that only touch share none. -/
def sharesGround (a b : Polygon) : Bool :=
  enters a.edges b.edges || enters b.edges a.edges || (follows a.edges b.edges && follows b.edges a.edges)

theorem sharesGround_comm (a b : Polygon) : a.sharesGround b = b.sharesGround a := by
  simp only [sharesGround, Bool.or_comm (enters a.edges b.edges), Bool.and_comm (follows a.edges b.edges)]

def interiorsOverlap (a b : Polygon) : Bool :=
  a.boundingBox.intersects b.boundingBox && a.sharesGround b

end Polygon

end FarmRegistry
