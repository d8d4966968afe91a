import FarmRegistry.Number.Power

namespace FarmRegistry.Decimal

/-- A double as its sign, the significand and the power of two that the significand is counted in;
`exponentField` is the stored one, 2047 for the infinities and NaN. -/
structure Binary where
  negative : Bool
  exponentField : Nat
  fraction : Nat

namespace Binary

def ofFloat (x : Float) : Binary :=
  let bits := x.toBits.toNat
  ⟨bits / twoTo 63 % 2 = 1, bits / twoTo 52 % twoTo 11, bits % twoTo 52⟩

def isFinite (b : Binary) : Bool :=
  b.exponentField != 2047

def isNaN (b : Binary) : Bool :=
  b.exponentField == 2047 && b.fraction != 0

def significand (b : Binary) : Nat :=
  if b.exponentField = 0 then b.fraction else twoTo 52 + b.fraction

/-- The value of a finite double is its significand times two to the power `scale - 1074`. -/
def scale (b : Binary) : Nat :=
  b.exponentField - 1

def isNarrowBelow (b : Binary) : Bool :=
  b.fraction == 0 && 1 < b.exponentField

def units (b : Binary) : Int :=
  let magnitude : Nat := b.significand * twoTo b.scale
  if b.negative then -magnitude else magnitude

def rank (b : Binary) : Int :=
  let place : Nat := b.exponentField * twoTo 52 + b.fraction
  if b.negative then -1 - place else place

end Binary

def units (x : Float) : Int :=
  (Binary.ofFloat x).units

def rank (x : Float) : Int :=
  (Binary.ofFloat x).rank

def isFinite (x : Float) : Bool :=
  (Binary.ofFloat x).isFinite

def unitsOfNat (n : Nat) : Int :=
  (n * twoTo 1074 : Nat)

end FarmRegistry.Decimal
