namespace FarmRegistry.Geodesic

def pi : Float := 3.14159265358979323846

def radians (degrees : Float) : Float :=
  degrees * (pi / 180)

def square (x : Float) : Float :=
  x * x

def longest (x y : Float) : Float :=
  let h := Float.sqrt (x * x + y * y)
  let excess :=
    if h ≤ 2 * y then
      let d := h - y
      x * (2 * d - x) + (d - 2 * (x - y)) * d
    else
      let d := h - x
      2 * d * (x - 2 * y) + ((4 * d - y) * y + d * d)
  h - excess / (2 * h)

def hypotenuse (x y : Float) : Float :=
  let long := max x.abs y.abs
  let short := min x.abs y.abs
  if short ≤ long * Float.scaleB 1 (-54) then long + short
  else if short < Float.scaleB 1 (-459) then
    longest (long.scaleB 600) (short.scaleB 600) |>.scaleB (-600)
  else longest long short

def remainder (x y : Float) : Float :=
  if x.abs < y then x
  else
    let r := x.abs - y * Float.floor (x.abs / y)
    if x < 0 then -r else r

def exactSum (u v : Float) : Float × Float :=
  let s := u + v
  let u' := s - v
  let v' := s - u'
  (s, -((u' - u) + (v' - v)))

def normalize (x : Float) : Float :=
  let y := remainder x 360
  if y ≤ -180 then y + 360 else if y ≤ 180 then y else y - 360

def difference (x y : Float) : Float × Float :=
  let (d, t) := exactSum (normalize (-x)) (normalize y)
  let d := normalize d
  exactSum (if d == 180 && 0 < t then -180 else d) t

def coarsen (x : Float) : Float :=
  let z : Float := 1 / 16
  let y := x.abs
  let y := if y < z then z - (z - y) else y
  if x == 0 then 0 else if x < 0 then -y else y

structure Direction where
  sin : Float
  cos : Float

namespace Direction

def unit (s c : Float) : Direction :=
  let r := hypotenuse s c
  ⟨s / r, c / r⟩

def ofRadians (x : Float) : Direction :=
  ⟨Float.sin x, Float.cos x⟩

def ofDegrees (x : Float) : Direction :=
  let near := fun (q : Float) => ofRadians (radians (x - 90 * q))
  let d :=
    if x.abs ≤ 45 then near 0
    else if x.abs < 135 then
      if 0 < x then let d := near 1; ⟨d.cos, -d.sin⟩ else let d := near (-1); ⟨-d.cos, d.sin⟩
    else let d := near (if 0 < x then 2 else -2); ⟨-d.sin, -d.cos⟩
  if x == 0 then ⟨x, d.cos⟩ else ⟨0 + d.sin, 0 + d.cos⟩

end Direction

end FarmRegistry.Geodesic
