import FarmRegistry.Decimal.Layout
import FarmRegistry.Geometry.Segment
import FarmRegistry.Order.Runs

namespace FarmRegistry

inductive RingDefect where
  | tooFewPoints (count : Nat)
  | unclosedRing
  | coordinateOutOfRange (index : Nat) (vertex : Vertex)
  | selfIntersecting (first second : Nat)

namespace RingDefect

def message : RingDefect → String
  | .tooFewPoints count => s!"polygon ring needs at least 4 vertices (got {count})"
  | .unclosedRing => "polygon ring must start and end on the same vertex"
  | .coordinateOutOfRange index v =>
    let lng := Decimal.Layout.plain.render v.lng
    let lat := Decimal.Layout.plain.render v.lat
    s!"vertex {index} ({lng}, {lat}) is outside longitude -180..180 / latitude -90..90"
  | .selfIntersecting first second =>
    s!"polygon boundary crosses itself between edges {first} and {second}"

end RingDefect

abbrev Ring := List Vertex

namespace Ring

def corners (ring : Ring) : List Point :=
  collapse (ring.map Vertex.point)

def edges : List Point → List Segment
  | p :: q :: rest => ⟨p, q⟩ :: edges (q :: rest)
  | _ => []

def conflict (neighbours : Bool) (s t : Segment) : Bool :=
  match s.meeting t with
  | .apart => false
  | .point => !neighbours
  | .stretch => true

def areNeighbours (count i j : Nat) : Bool :=
  j = i + 1 || (i = 0 && j + 1 = count)

def conflictAfter (count i : Nat) (s : Segment) (j : Nat) : List Segment → Option Nat
  | [] => none
  | t :: rest => if conflict (areNeighbours count i j) s t then some j else conflictAfter count i s (j + 1) rest

def firstConflict (count i : Nat) : List Segment → Option (Nat × Nat)
  | [] => none
  | s :: rest =>
    match conflictAfter count i s (i + 1) rest with
    | some j => some (i, j)
    | none => firstConflict count (i + 1) rest

def firstOffGlobe (i : Nat) : Ring → Option (Nat × Vertex)
  | [] => none
  | v :: rest => if v.isOnGlobe then firstOffGlobe (i + 1) rest else some (i, v)

def isClosed (ring : Ring) : Bool :=
  ring.head?.map Vertex.point = ring.getLast?.map Vertex.point

/-- What keeps a ring from bounding a parcel. Edges are numbered along the collapsed ring. -/
def defect (ring : Ring) : Option RingDefect :=
  if ring.length < 4 then some (.tooFewPoints ring.length)
  else
    match firstOffGlobe 0 ring with
    | some (i, v) => some (.coordinateOutOfRange i v)
    | none =>
      if !isClosed ring then some .unclosedRing
      else if (corners ring).length < 4 then some (.tooFewPoints (corners ring).length)
      else
        let es := edges (corners ring)
        (firstConflict es.length 0 es).map fun (i, j) => .selfIntersecting i j

end Ring

structure Polygon where
  ring : Ring
  sound : ring.defect = none

namespace Polygon

def ofRing (ring : Ring) : Except RingDefect Polygon :=
  match h : ring.defect with
  | none => .ok ⟨ring, h⟩
  | some e => .error e

theorem ofRing_eq_ok_iff {ring : Ring} {p : Polygon} : ofRing ring = .ok p ↔ p.ring = ring := by
  constructor
  · intro h
    unfold ofRing at h
    split at h
    · rw [← Except.ok.inj h]
    · cases h
  · rintro rfl
    unfold ofRing
    split
    · rfl
    · rename_i e he
      rw [p.sound] at he
      cases he

theorem ofRing_eq_error_iff {ring : Ring} {e : RingDefect} :
    ofRing ring = .error e ↔ ring.defect = some e := by
  unfold ofRing
  split <;> simp_all

def points (p : Polygon) : List Point :=
  p.ring.map Vertex.point

end Polygon

end FarmRegistry
