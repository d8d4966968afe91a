import FarmRegistry.Geometry.Polygon

namespace FarmRegistry.Ring

def least : Point → List Point → Point
  | p, [] => p
  | p, q :: rest => least (if q.isBefore p then q else p) rest

def turnAtLeast : List Point → Int
  | [] => 0
  | p :: rest =>
    let m := least p rest
    let cycle := p :: rest
    match cycle.dropWhile (· ≠ m) ++ cycle.takeWhile (· ≠ m) with
    | m :: next :: others => Point.apparentTurn ((next :: others).getLast (List.cons_ne_nil _ _)) m next
    | _ => 0

def isClockwise (ring : Ring) : Bool :=
  turnAtLeast ring.corners.dropLast < 0

end FarmRegistry.Ring

namespace FarmRegistry.Polygon

def exterior (p : Polygon) : Ring :=
  if p.ring.isClockwise then p.ring.reverse else p.ring

end FarmRegistry.Polygon
