import FarmRegistry.Geometry.Point

namespace FarmRegistry

structure Segment where
  start : Point
  finish : Point
deriving DecidableEq

inductive Meeting where
  | apart
  | point
  | stretch
deriving DecidableEq

namespace Segment

def minX (s : Segment) : Int := min s.start.x s.finish.x
def maxX (s : Segment) : Int := max s.start.x s.finish.x
def minY (s : Segment) : Int := min s.start.y s.finish.y
def maxY (s : Segment) : Int := max s.start.y s.finish.y

def boxesMeet (s t : Segment) : Bool :=
  s.minX ≤ t.maxX && t.minX ≤ s.maxX && s.minY ≤ t.maxY && t.minY ≤ s.maxY

def boxHolds (s : Segment) (p : Point) : Bool :=
  s.minX ≤ p.x && p.x ≤ s.maxX && s.minY ≤ p.y && p.y ≤ s.maxY

def onOneSide (s t : Segment) : Bool :=
  let a := Point.apparentTurn s.start s.finish t.start
  let b := Point.apparentTurn s.start s.finish t.finish
  (0 < a && 0 < b) || (a < 0 && b < 0)

def onOneLine (s t : Segment) : Bool :=
  Point.apparentTurn s.start s.finish t.start = 0 && Point.apparentTurn s.start s.finish t.finish = 0 &&
    Point.apparentTurn t.start t.finish s.start = 0 && Point.apparentTurn t.start t.finish s.finish = 0

def heldEnds (s t : Segment) : List Point :=
  [t.start, t.finish].filter s.boxHolds

def meetingInLine (s t : Segment) : Meeting :=
  match heldEnds s t, heldEnds t s with
  | [_, _], _ => .stretch
  | _, [_, _] => .stretch
  | [p], [q] => if p = q then .point else .stretch
  | _, _ => .apart

def meeting (s t : Segment) : Meeting :=
  if !boxesMeet s t || onOneSide s t || onOneSide t s then .apart
  else if onOneLine s t then meetingInLine s t
  else .point

end Segment

end FarmRegistry
