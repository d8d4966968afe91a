import FarmRegistry.Decimal.Binary

namespace FarmRegistry.Decimal

structure Digits where
  digits : List Char
  point : Int
deriving DecidableEq

structure Ratio where
  num : Nat
  den : Nat

namespace Ratio

def timesPowerOfTen (r : Ratio) (e : Int) : Ratio :=
  if 0 ≤ e then ⟨r.num * tenTo e.toNat, r.den⟩ else ⟨r.num, r.den * tenTo (-e).toNat⟩

def isLessThan (a b : Ratio) : Bool :=
  a.num * b.den < b.num * a.den

def digitCount (n : Nat) : Nat :=
  (Nat.toDigits 10 n).length

def point (r : Ratio) : Int :=
  let guess : Int := digitCount r.num - digitCount r.den
  let s := r.timesPowerOfTen (-guess)
  if s.num < s.den then guess else guess + 1

end Ratio

/-- The reals that round to a double: from `low` to `high`, ends included when `closed`. -/
structure Rounding where
  low : Ratio
  value : Ratio
  high : Ratio
  closed : Bool

namespace Rounding

def ofBinary (b : Binary) : Rounding :=
  let m := b.significand * twoTo b.scale
  let half := twoTo b.scale
  let den := twoTo 1074
  ⟨⟨4 * m - (if b.isNarrowBelow then half else 2 * half), 4 * den⟩, ⟨4 * m, 4 * den⟩,
    ⟨4 * m + 2 * half, 4 * den⟩, b.significand % 2 == 0⟩

def holds (r : Rounding) (x : Ratio) : Bool :=
  if r.closed then !x.isLessThan r.low && !r.high.isLessThan x
  else r.low.isLessThan x && x.isLessThan r.high

def onGrid? (r : Rounding) (e : Int) : Option Nat :=
  let scaled := r.value.timesPowerOfTen (-e)
  let below := scaled.num / scaled.den
  let above := below + 1
  let fits := fun n => r.holds (Ratio.timesPowerOfTen ⟨n, 1⟩ e)
  let nearer := if 2 * (scaled.num % scaled.den) ≤ scaled.den then below else above
  if fits nearer then some nearer
  else if fits below then some below
  else if fits above then some above
  else none

end Rounding

def dropTrailingZeros (ds : List Char) : List Char :=
  (ds.reverse.dropWhile (· == '0')).reverse

def digitsOnGrid (n : Nat) (e : Int) : Digits :=
  let ds := Nat.toDigits 10 n
  ⟨dropTrailingZeros ds, ds.length + e⟩

def shortest (b : Binary) : Digits :=
  let r := Rounding.ofBinary b
  let p := r.value.point
  let grid := fun k : Nat => (r.onGrid? (p - (k + 1 : Nat))).map (digitsOnGrid · (p - (k + 1 : Nat)))
  ((List.range 17).findSome? grid).getD ⟨['0'], 1⟩

end FarmRegistry.Decimal
