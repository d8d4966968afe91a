import FarmRegistry.Json.Number
import FarmRegistry.Number.Bounded
import FarmRegistry.Time.Calendar
import FarmRegistry.Toml.Token

namespace FarmRegistry.Toml

open Json

def isGrouped (isDigit : Char → Bool) (cs : List Char) : Bool :=
  cs.head? != some '_' && cs.getLast? != some '_' &&
    (cs.zip cs.tail).all fun (a, b) => (a != '_' || isDigit b) && (b != '_' || isDigit a)

def ungrouped (cs : List Char) : List Char :=
  cs.filter (· != '_')

def based? (base : Nat) (cs : List Char) : Option Int := do
  let isDigit := fun c => ((Json.Token.hexValue? c).map (decide <| · < base)).getD false
  let ds ← (ungrouped cs).mapM Json.Token.hexValue?
  let n ← (Bounded.ofInt? (ds.foldl (fun n d => n * base + d) 0 : Nat) : Option Signed64)
  if isGrouped isDigit cs && !ds.isEmpty && ds.all (· < base) then some n.val else none

def withoutPlus (cs : List Char) : List Char :=
  match cs with
  | '+' :: c :: rest => if c.isDigit then c :: rest else cs
  | cs => cs

def number? (cs : List Char) : Option Json := do
  if !isGrouped Char.isDigit cs then none
  let n ← Numeral.read (ungrouped (withoutPlus cs))
  match n.fraction, n.exponent with
  | none, none =>
    let m : Int := if n.negative then -natOfDigits n.whole else natOfDigits n.whole
    (Bounded.ofInt? m : Option Signed64).map fun b => .integer b.val
  | _, _ =>
    let x := n.toFloat
    if x == 1 / 0 then none else some (.decimal x)

def special? (cs : List Char) : Option Json :=
  match String.ofList cs with
  | "true" => some (.bool true)
  | "false" => some (.bool false)
  | "inf" => some (.decimal (1 / 0))
  | "+inf" => some (.decimal (1 / 0))
  | "-inf" => some (.decimal (-1 / 0))
  | "nan" => some (.decimal (0 / 0))
  | "+nan" => some (.decimal (0 / 0))
  | "-nan" => some (.decimal (0 / 0))
  | _ => none

def pair (cs : List Char) (start : Nat) : Nat :=
  natOfDigits ((cs.drop start).take 2)

def isDate (cs : List Char) : Bool :=
  Token.outline cs = "0000-00-00" && Time.Date.isValid ⟨natOfDigits (cs.take 4), pair cs 5, pair cs 8⟩

def isTime (cs : List Char) : Bool :=
  Token.outline (cs.take 8) = "00:00:00" && pair cs 0 ≤ 23 && pair cs 3 ≤ 59 && pair cs 6 ≤ 60 &&
    match cs.drop 8 with
    | [] => true
    | '.' :: fraction => !fraction.isEmpty && fraction.all Char.isDigit
    | _ => false

def isOffset (cs : List Char) : Bool :=
  match cs with
  | ['Z'] => true
  | ['z'] => true
  | sign :: cs =>
    (sign = '+' || sign = '-') && Token.outline cs = "00:00" && pair cs 0 ≤ 23 && pair cs 3 ≤ 59
  | [] => false

def isPlacedTime (cs : List Char) : Bool :=
  isTime cs || [1, 6].any fun n =>
    isTime (cs.take (cs.length - n)) && isOffset (cs.drop (cs.length - n))

def isMoment (cs : List Char) : Bool :=
  isDate cs || isTime cs ||
    (isDate (cs.take 10) && isPlacedTime (cs.drop 11) &&
      match cs[10]? with
      | some c => c = 'T' || c = 't' || c = ' '
      | none => false)

def momentName : String :=
  "$__toml_private_datetime"

def moment (cs : List Char) : Json :=
  .object [(momentName, .string (String.ofList cs))]

def isMomentText (j : Json) : Bool :=
  match j with
  | .string s => isMoment s.toList
  | _ => false

def scalar? (cs : List Char) : Option Json :=
  match cs with
  | '0' :: 'x' :: ds => (based? 16 ds).map .integer
  | '0' :: 'o' :: ds => (based? 8 ds).map .integer
  | '0' :: 'b' :: ds => (based? 2 ds).map .integer
  | cs => special? cs <|> number? cs <|> if isMoment cs then some (moment cs) else none

end FarmRegistry.Toml
