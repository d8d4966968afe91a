import FarmRegistry.Decimal.Shortest
import FarmRegistry.Number.Rounding

namespace FarmRegistry.Decimal

structure Layout where
  positional : Option (Int × Int)
  wholeMark : Bool
  exponentMark : Bool
  notANumber : String
  infinite : String

namespace Layout

def plain : Layout := ⟨none, false, false, "NaN", "inf"⟩

def inspected : Layout := ⟨some (-4, 16), true, false, "NaN", "inf"⟩

def interchange : Layout := ⟨some (-5, 16), true, true, "null", "null"⟩

end Layout

def zeros (n : Nat) : List Char :=
  List.replicate n '0'

namespace Digits

def positional (d : Digits) (wholeMark : Bool) : List Char :=
  let n := d.digits.length
  if d.point ≤ 0 then ['0', '.'] ++ zeros (-d.point).toNat ++ d.digits
  else if (n : Int) ≤ d.point then
    d.digits ++ zeros (d.point.toNat - n) ++ (if wholeMark then ['.', '0'] else [])
  else d.digits.take d.point.toNat ++ '.' :: d.digits.drop d.point.toNat

def scientific (d : Digits) (exponentMark : Bool) : List Char :=
  let mantissa :=
    match d.digits with
    | [] => ['0']
    | [c] => [c]
    | c :: cs => c :: '.' :: cs
  let sign := if exponentMark && 0 < d.point then ['+'] else []
  mantissa ++ 'e' :: sign ++ (toString (d.point - 1)).toList

def laidOut (d : Digits) (l : Layout) : List Char :=
  match l.positional with
  | none => d.positional l.wholeMark
  | some (fewest, most) =>
    if fewest < d.point && d.point ≤ most then d.positional l.wholeMark
    else d.scientific l.exponentMark

end Digits

def Layout.magnitude (l : Layout) (b : Binary) : List Char :=
  if b.significand = 0 then if l.wholeMark then ['0', '.', '0'] else ['0']
  else (shortest b).laidOut l

def Layout.render (l : Layout) (x : Float) : String :=
  let b := Binary.ofFloat x
  let sign := if b.negative then ['-'] else []
  if b.isFinite then String.ofList (sign ++ l.magnitude b)
  else if b.isNaN then l.notANumber
  else String.ofList (sign ++ l.infinite.toList)

def fixed (places : Nat) (x : Float) : String :=
  let b := Binary.ofFloat x
  let n := roundHalfEven (b.significand * twoTo b.scale * tenTo places) (twoTo 1074)
  let ds := (toString n).toList
  let ds := zeros (places + 1 - ds.length) ++ ds
  let whole := ds.take (ds.length - places)
  let fraction := ds.drop (ds.length - places)
  String.ofList ((if b.negative then ['-'] else []) ++ whole ++
    (if places = 0 then [] else '.' :: fraction))

end FarmRegistry.Decimal
