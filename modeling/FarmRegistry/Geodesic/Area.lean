import FarmRegistry.Geodesic.Line
import FarmRegistry.Geometry.Winding

namespace FarmRegistry.Geodesic

def azimuthChange (l : Line) : Float :=
  let s := l.finish.sin * l.start.cos - l.finish.cos * l.start.sin
  let c := l.finish.cos * l.start.cos + l.finish.sin * l.start.sin
  if s == 0 && c < 0 then Float.atan2 (tiny * l.start.cos) (-1) else Float.atan2 s c

def excess (p q : Direction) (l : Line) : Float :=
  let direct := fun (o : Direction) =>
    if -0.7071067811865476 < o.cos && q.sin - p.sin < 1.75 then
      let up := 1 + p.cos
      let uq := 1 + q.cos
      2 * Float.atan2 (o.sin * (p.sin * uq + q.sin * up)) ((1 + o.cos) * (p.sin * q.sin + up * uq))
    else azimuthChange l
  match l.swing with
  | .none => azimuthChange l
  | .angle x => direct (Direction.ofRadians x)
  | .direction d => direct d

def correction (p q : Direction) (l : Line) : Float :=
  let node : Direction := ⟨l.start.sin * p.cos, hypotenuse l.start.cos (l.start.sin * p.sin)⟩
  if node.cos == 0 || node.sin == 0 then 0
  else
    let eps := third (square node.cos * secondEccentricitySquared)
    let scale := square equatorialRadius * node.cos * node.sin * eccentricitySquared
    let a := Direction.unit p.sin (l.start.cos * p.cos)
    let b := Direction.unit q.sin (l.finish.cos * q.cos)
    scale * (cosineSum b (areaSeries eps) - cosineSum a (areaSeries eps))

def reducedLatitude (lat : Float) : Direction :=
  let d := Direction.ofDegrees lat
  let u := Direction.unit (d.sin * axisRatio) d.cos
  ⟨u.sin, max tiny u.cos⟩

def areaBelow (v w : Vertex) : Float :=
  let (lon, lost) := difference v.lng w.lng
  let eastward := 0 ≤ lon
  let supplement := coarsen ((180 - lon.abs) - (if eastward then lost else -lost))
  let lon := coarsen lon.abs
  let direction :=
    if 90 < lon then let d := Direction.ofDegrees supplement; ⟨d.sin, -d.cos⟩ else Direction.ofDegrees lon
  let vLat := coarsen v.lat
  let wLat := coarsen w.lat
  let swapped := vLat.abs < wLat.abs
  let (first, second) := if swapped then (wLat, vLat) else (vLat, wLat)
  let southern := first < 0
  let (first, second) := if southern then (first, second) else (-first, -second)
  let p := reducedLatitude first
  let q := reducedLatitude second
  let q : Direction :=
    if p.cos < -p.sin then if q.cos == p.cos then ⟨if q.sin < 0 then p.sin else -p.sin, q.cos⟩ else q
    else if q.sin.abs == -p.sin then ⟨q.sin, p.cos⟩ else q
  let l := lineBetween (.ofLatitude p) (.ofLatitude q) ⟨radians lon, direction, supplement⟩ (first == -90)
  let area := correction p q l + authalicRadiusSquared * excess p q l
  (if eastward == southern then area else -area) + 0

def crossing (v w : Vertex) : Int :=
  let lon := (difference v.lng w.lng).1
  let a := normalize v.lng
  let b := normalize w.lng
  if 0 < lon && ((a < 0 && 0 ≤ b) || (0 < a && b == 0)) then 1
  else if lon < 0 && 0 ≤ a && b < 0 then -1
  else 0

def wholeArea : Float := 4 * pi * authalicRadiusSquared

/-- The area left of a closed path, from the areas below its edges; a path around a pole crosses the prime
meridian an odd number of times. -/
def enclosed (below : Float) (crossings : Int) : Float :=
  let area := remainder below wholeArea
  let area := if crossings % 2 = 0 then area else area + (if area < 0 then wholeArea / 2 else -wholeArea / 2)
  let area := -area
  if wholeArea ≤ area then area - wholeArea else if area < 0 then area + wholeArea else area

def sums (path : Ring) : Float × Int :=
  (path.zip path.tail).foldl (fun (area, n) (v, w) => (area + areaBelow v w, n + crossing v w)) (0, 0)

end FarmRegistry.Geodesic

namespace FarmRegistry.Polygon

def geodesicArea (p : Polygon) : Float :=
  let plain := fun x : Float => if x == 0 then 0 else x
  let (below, crossings) := Geodesic.sums (p.exterior.map fun v => ⟨plain v.lng, plain v.lat⟩)
  Geodesic.enclosed below crossings

end FarmRegistry.Polygon
