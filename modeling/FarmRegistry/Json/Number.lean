import FarmRegistry.Decimal.Binary
import FarmRegistry.Json.Value

namespace FarmRegistry.Json

def ofFloat (x : Float) : Json :=
  if Decimal.isFinite x then .decimal x else .null

structure Numeral where
  negative : Bool
  whole : List Char
  fraction : Option (List Char)
  exponent : Option Int

def natOfDigits (ds : List Char) : Nat :=
  ds.foldl (fun n c => n * 10 + (c.toNat - '0'.toNat)) 0

def floatOfDecimal (negative : Bool) (mantissa : Nat) (exponent : Int) : Float :=
  let size : Int := (Nat.toDigits 10 mantissa).length + exponent
  let magnitude : Float :=
    if mantissa = 0 || size < -400 then 0
    else if 400 < size then 1 / 0
    else Float.ofScientific mantissa (exponent < 0) exponent.natAbs
  if negative then -magnitude else magnitude

namespace Numeral

def readExponent (cs : List Char) : Option (Option Int) :=
  let digits := fun (ds : List Char) =>
    if ds.isEmpty || !ds.all Char.isDigit then none else some (natOfDigits ds)
  match cs with
  | [] => some none
  | '+' :: ds => (digits ds).map fun n => some (n : Int)
  | '-' :: ds => (digits ds).map fun n => some (-n : Int)
  | ds => (digits ds).map fun n => some (n : Int)

def readTail (negative : Bool) (whole : List Char) : List Char → Option Numeral
  | [] => some ⟨negative, whole, none, none⟩
  | '.' :: rest =>
    let fraction := rest.takeWhile Char.isDigit
    match rest.dropWhile Char.isDigit with
    | [] => if fraction.isEmpty then none else some ⟨negative, whole, some fraction, none⟩
    | e :: exponent =>
      if fraction.isEmpty || (e != 'e' && e != 'E') || exponent.isEmpty then none
      else (readExponent exponent).map fun x => ⟨negative, whole, some fraction, x⟩
  | e :: exponent =>
    if (e != 'e' && e != 'E') || exponent.isEmpty then none
    else (readExponent exponent).map fun x => ⟨negative, whole, none, x⟩

def read (text : List Char) : Option Numeral :=
  let (negative, text) :=
    match text with
    | '-' :: rest => (true, rest)
    | rest => (false, rest)
  let whole := text.takeWhile Char.isDigit
  if whole.isEmpty || (whole.head? = some '0' && whole.length != 1) then none
  else readTail negative whole (text.dropWhile Char.isDigit)

def toFloat (n : Numeral) : Float :=
  let fraction := n.fraction.getD []
  floatOfDecimal n.negative (natOfDigits (n.whole ++ fraction)) (n.exponent.getD 0 - fraction.length)

def toDecimal? (n : Numeral) : Option Json :=
  let x := n.toFloat
  if x.isInf then none else some (.decimal x)

def toJson? (n : Numeral) : Option Json :=
  match n.fraction, n.exponent with
  | none, none =>
    let m := natOfDigits n.whole
    if n.negative then if m = 0 || twoTo 63 < m then n.toDecimal? else some (.integer (-m))
    else if m < twoTo 64 then some (.integer m) else n.toDecimal?
  | _, _ => n.toDecimal?

end Numeral

end FarmRegistry.Json
