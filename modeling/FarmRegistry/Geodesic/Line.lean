import FarmRegistry.Geodesic.Series

namespace FarmRegistry.Geodesic

def tiny : Float := Float.sqrt 2.2250738585072014e-308
def resolution : Float := 2.220446049250313e-16
def coarseResolution : Float := 200 * resolution
def rootResolution : Float := Float.sqrt resolution
def bracketResolution : Float := resolution * rootResolution
def cutWidth : Float := 1000 * rootResolution

def shortLimit : Float :=
  0.1 * rootResolution /
    Float.sqrt (max 0.001 flattening.abs * min 1 (1 - flattening / 2) / 2)

def newtonSteps : Nat := 20
def maxSteps : Nat := 83

structure End where
  lat : Direction
  stretch : Float

namespace End

def ofLatitude (lat : Direction) : End :=
  ⟨lat, Float.sqrt (1 + secondEccentricitySquared * square lat.sin)⟩

end End

/-- A line as seen between two ends: the azimuths at both and what is known of the longitude covered on the
auxiliary sphere, as an angle or as a direction. -/
inductive Swing where
  | none
  | angle (x : Float)
  | direction (d : Direction)

structure Line where
  start : Direction
  finish : Direction
  swing : Swing

structure Longitude where
  radians : Float
  direction : Direction
  supplement : Float

def third (k2 : Float) : Float :=
  k2 / (2 * (1 + Float.sqrt (1 + k2)) + k2)

def arcBetween (a b : Direction) : Float :=
  Float.atan2 (max 0 (a.cos * b.sin - a.sin * b.cos) + 0) (a.cos * b.cos + a.sin * b.sin)

def reducedLength (eps arc : Float) (a b : Direction) (p q : End) : Float :=
  let excess := distanceExcess eps - reducedExcess eps
  let scale := 1 + distanceExcess eps
  let reduced := 1 + reducedExcess eps
  let j := excess * arc + (scale * sineSumBetween a b (distanceSeries eps) -
    reduced * sineSumBetween a b (reducedSeries eps))
  q.stretch * (a.cos * b.sin) - p.stretch * (a.sin * b.cos) - a.cos * b.cos * j

def astroid (x y : Float) : Float :=
  let p := square x
  let q := square y
  let r := (p + q - 1) / 6
  if q == 0 && r ≤ 0 then 0
  else
    let s := p * q / 4
    let r2 := square r
    let r3 := r * r2
    let disc := s * (s + 2 * r3)
    let u :=
      if 0 ≤ disc then
        let t3 := s + r3
        let t := Float.cbrt (t3 + (if t3 < 0 then -Float.sqrt disc else Float.sqrt disc))
        r + (t + (if t == 0 then 0 else r2 / t))
      else
        let angle := Float.atan2 (Float.sqrt (-disc)) (-(s + r3))
        r + 2 * r * Float.cos (angle / 3)
    let v := Float.sqrt (square u + q)
    let uv := if u < 0 then q / (v - u) else u + v
    let w := (uv - q) / (2 * v)
    uv / (Float.sqrt (uv + square w) + w)

inductive Guess where
  | azimuth (start : Direction)
  | line (l : Line)

def firstDirection (s c : Float) : Direction :=
  if s ≤ 0 then ⟨1, 0⟩ else Direction.unit s c

def antipodalGuess (p q : Direction) (lon : Longitude) (latSum : Float) : Direction :=
  let opposite := Float.atan2 (-lon.direction.sin) (-lon.direction.cos)
  let eps := third (square p.sin * secondEccentricitySquared)
  let lonScale := flattening * p.cos * longitudeFactor eps * pi
  let latScale := lonScale * p.cos
  let x := opposite / lonScale
  let y := latSum / latScale
  if -coarseResolution < y && -1 - cutWidth < x then
    let s := min 1 (-x)
    firstDirection s (-Float.sqrt (1 - square s))
  else
    let k := astroid x y
    let omega := lonScale * (-x * k / (1 + k))
    let s := Float.sin omega
    let c := -Float.cos omega
    firstDirection (q.cos * s) (latSum - q.cos * p.sin * square s / (1 - c))

def guess (p q : End) (lon : Longitude) : Guess :=
  let a := p.lat
  let b := q.lat
  let latSin := b.sin * a.cos - b.cos * a.sin
  let latCos := b.cos * a.cos + b.sin * a.sin
  let latSum := b.sin * a.cos + b.cos * a.sin
  let short := 0 ≤ latCos && latSin < 0.5 && b.cos * lon.radians < 0.5
  let mean := square (a.sin + b.sin)
  let mean := mean / (mean + square (a.cos + b.cos))
  let stretch := Float.sqrt (1 + secondEccentricitySquared * mean)
  let omega := lon.radians / (axisRatio * stretch)
  let o := if short then Direction.ofRadians omega else lon.direction
  let s := b.cos * o.sin
  let c :=
    if 0 ≤ o.cos then latSin + b.cos * a.sin * square o.sin / (1 + o.cos)
    else latSum - b.cos * a.sin * square o.sin / (1 - o.cos)
  let arcSin := hypotenuse s c
  let arcCos := a.sin * b.sin + a.cos * b.cos * o.cos
  if short && arcSin < shortLimit then
    let finish := Direction.unit (a.cos * o.sin)
      (latSin - a.cos * b.sin * (if 0 ≤ o.cos then square o.sin / (1 + o.cos) else 1 - o.cos))
    .line ⟨firstDirection s c, finish, .angle omega⟩
  else if 0 ≤ arcCos || 6 * thirdFlattening.abs * pi * square a.cos ≤ arcSin then
    .azimuth (firstDirection s c)
  else .azimuth (antipodalGuess a b lon latSum)

structure Shot where
  miss : Float
  finish : Direction
  shift : Float
  slope : Float

def shoot (p q : End) (lon : Direction) (start : Direction) : Shot :=
  let a := p.lat
  let b := q.lat
  let start : Direction := if a.sin == 0 && start.cos == 0 then ⟨start.sin, -tiny⟩ else start
  let node : Direction := ⟨start.sin * a.cos, hypotenuse start.cos (start.sin * a.sin)⟩
  let startOmega : Direction := ⟨node.sin * a.sin, start.cos * a.cos⟩
  let startArc := Direction.unit a.sin startOmega.cos
  let finishSin := if b.cos == a.cos then start.sin else node.sin / b.cos
  let finishCos :=
    if b.cos == a.cos && b.sin.abs == -a.sin then start.cos.abs
    else Float.sqrt (square (start.cos * a.cos) +
      (if a.cos < -a.sin then (b.cos - a.cos) * (a.cos + b.cos) else (a.sin - b.sin) * (a.sin + b.sin))) /
        b.cos
  let finishOmega : Direction := ⟨node.sin * b.sin, finishCos * b.cos⟩
  let finishArc := Direction.unit b.sin finishOmega.cos
  let arc := arcBetween startArc finishArc
  let omegaSin := max 0 (startOmega.cos * finishOmega.sin - startOmega.sin * finishOmega.cos) + 0
  let omegaCos := startOmega.cos * finishOmega.cos + startOmega.sin * finishOmega.sin
  let eta := Float.atan2 (omegaSin * lon.cos - omegaCos * lon.sin) (omegaCos * lon.cos + omegaSin * lon.sin)
  let eps := third (square node.cos * secondEccentricitySquared)
  let shift := -flattening * longitudeFactor eps * node.sin *
    (arc + sineSumBetween startArc finishArc (longitudeSeries eps))
  let slope :=
    if finishCos == 0 then -2 * axisRatio * p.stretch / a.sin
    else reducedLength eps arc startArc finishArc p q * (axisRatio / (finishCos * b.cos))
  ⟨eta + shift, ⟨finishSin, finishCos⟩, shift, slope⟩

structure Search where
  low : Direction
  high : Direction
  now : Direction
  closing : Bool
  closed : Bool

def Search.ofGuess (start : Direction) : Search :=
  ⟨⟨tiny, 1⟩, ⟨tiny, -1⟩, start, false, false⟩

namespace Search

def narrow (s : Search) (step : Nat) (miss : Float) : Search :=
  let late := newtonSteps < step
  if 0 < miss && (late || s.high.cos / s.high.sin < s.now.cos / s.now.sin) then { s with high := s.now }
  else if miss < 0 && (late || s.now.cos / s.now.sin < s.low.cos / s.low.sin) then { s with low := s.now }
  else s

def bisect (s : Search) : Search :=
  let m := Direction.unit ((s.low.sin + s.high.sin) / 2) ((s.low.cos + s.high.cos) / 2)
  let closed := (s.low.sin - m.sin).abs + (s.low.cos - m.cos) < bracketResolution ||
    (m.sin - s.high.sin).abs + (m.cos - s.high.cos) < bracketResolution
  { s with now := m, closing := false, closed := closed }

def next (s : Search) (step : Nat) (shot : Shot) : Search :=
  let s := s.narrow step shot.miss
  let turn := -shot.miss / shot.slope
  let sin := s.now.sin * Float.cos turn + s.now.cos * Float.sin turn
  if step + 1 < newtonSteps && 0 < shot.slope && 0 < sin && turn.abs < pi then
    let now := Direction.unit sin (s.now.cos * Float.cos turn - s.now.sin * Float.sin turn)
    { s with now := now, closing := shot.miss.abs ≤ 16 * resolution, closed := false }
  else s.bisect

def run (p q : End) (lon : Direction) (step left : Nat) (s : Search) : Direction × Shot :=
  let shot := shoot p q lon s.now
  match left with
  | 0 => (s.now, shot)
  | left + 1 =>
    if s.closed || !((if s.closing then 8 else 1) * resolution ≤ shot.miss.abs) then (s.now, shot)
    else run p q lon (step + 1) left (s.next step shot)

end Search

def meridianLine? (p q : End) (lon : Longitude) : Option Line :=
  let start := lon.direction
  let a : Direction := ⟨p.lat.sin, start.cos * p.lat.cos⟩
  let arc := arcBetween a q.lat
  if arc < 1 || 0 ≤ reducedLength thirdFlattening arc a q.lat p q then some ⟨start, ⟨0, 1⟩, .none⟩ else none

def lineBetween (p q : End) (lon : Longitude) (atPole : Bool) : Line :=
  let meridian := if atPole || lon.direction.sin == 0 then meridianLine? p q lon else none
  match meridian with
  | some l => l
  | none =>
    if p.lat.sin == 0 && flattening * 180 ≤ lon.supplement then
      ⟨⟨1, 0⟩, ⟨1, 0⟩, .angle (lon.radians / axisRatio)⟩
    else
      match guess p q lon with
      | .line l => l
      | .azimuth start =>
        let (start, shot) := Search.run p q lon.direction 0 maxSteps (Search.ofGuess start)
        let d := Direction.ofRadians shot.shift
        let o := lon.direction
        ⟨start, shot.finish, .direction ⟨o.sin * d.cos - o.cos * d.sin, o.cos * d.cos + o.sin * d.sin⟩⟩

end FarmRegistry.Geodesic
