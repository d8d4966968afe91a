import FarmRegistry.Decimal.Binary
import FarmRegistry.Number.Rounding

namespace FarmRegistry

structure Vertex where
  lng : Float
  lat : Float

structure Point where
  x : Int
  y : Int
deriving DecidableEq

def Vertex.point (v : Vertex) : Point :=
  ⟨Decimal.units v.lng, Decimal.units v.lat⟩

def isWithin (x : Float) (bound : Nat) : Bool :=
  Decimal.isFinite x && -Decimal.unitsOfNat bound ≤ Decimal.units x && Decimal.units x ≤ Decimal.unitsOfNat bound

def Vertex.isOnGlobe (v : Vertex) : Bool :=
  isWithin v.lng 180 && isWithin v.lat 90

namespace Point

def turn (a b c : Point) : Int :=
  (b.x - a.x) * (c.y - a.y) - (b.y - a.y) * (c.x - a.x)

/-- Whether the coordinates are multiples of a unit so large that doubles hold the products of any two
differences of such coordinates without loss. -/
def isCoarse (p : Point) : Bool :=
  p.x % (twoTo 537 : Nat) = 0 && p.y % (twoTo 537 : Nat) = 0

/-- The turn from `a` over `b` to `c` as doubles tell it. It is the exact turn, but where distances are so
short that their products vanish, so does the turn. -/
def apparentTurn (a b c : Point) : Int :=
  if a.isCoarse && b.isCoarse && c.isCoarse then turn a b c
  else
    let product := fun (x y : Int) => rounded (rounded x 0 * rounded y 0) 1074
    let left := product (a.x - c.x) (b.y - c.y)
    let right := product (a.y - c.y) (b.x - c.x)
    let shown := rounded (left - right) 0
    let doubt := rounded ((rounded (left + right) 0).natAbs * 1688849860263937) 102
    if doubt ≤ shown.natAbs then shown else turn a b c

def isBefore (a b : Point) : Bool :=
  a.x < b.x || (a.x = b.x && a.y < b.y)

end Point

end FarmRegistry
