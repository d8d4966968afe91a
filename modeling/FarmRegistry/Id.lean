import FarmRegistry.Text.Blank
import FarmRegistry.Text.Quoted

namespace FarmRegistry

abbrev uuidCount : Nat :=
  340282366920938463463374607431768211456

structure Uuid where
  value : Fin uuidCount
deriving DecidableEq

namespace Uuid

def isHex (c : Char) : Bool :=
  c.isDigit || ('a' ≤ c && c ≤ 'f') || ('A' ≤ c && c ≤ 'F')

def hexValue (c : Char) : Nat :=
  if c.isDigit then c.toNat - '0'.toNat
  else if 'a' ≤ c then c.toNat - 'a'.toNat + 10
  else c.toNat - 'A'.toNat + 10

def groups : List Nat :=
  [8, 4, 4, 4, 12]

def joinGroups : List Nat → List Char → Option (List Char)
  | [], cs => if cs.isEmpty then some [] else none
  | [n], cs => if cs.length = n then some cs else none
  | n :: ns, cs =>
    match cs.drop n with
    | '-' :: rest => (joinGroups ns rest).map (cs.take n ++ ·)
    | _ => none

def splitGroups : List Nat → List Char → List Char
  | [], cs => cs
  | [_], cs => cs
  | n :: ns, cs => cs.take n ++ '-' :: splitGroups ns (cs.drop n)

def ofDigits? (cs : List Char) : Option Uuid :=
  if cs.length = 32 && cs.all isHex then
    some ⟨Fin.ofNat uuidCount (cs.foldl (fun n c => n * 16 + hexValue c) 0)⟩
  else none

def urn : List Char :=
  "urn:uuid:".toList

def ofChars? (cs : List Char) : Option Uuid :=
  match cs with
  | '\x7b' :: rest =>
    if rest.getLast? = some '\x7d' then (joinGroups groups rest.dropLast).bind ofDigits? else none
  | _ =>
    if (cs.take 9).map Char.toLower = urn then (joinGroups groups (cs.drop 9)).bind ofDigits?
    else if cs.length = 32 then ofDigits? cs
    else (joinGroups groups cs).bind ofDigits?

def digits (u : Uuid) : List Char :=
  let ds := Nat.toDigits 16 u.value.val
  List.replicate (32 - ds.length) '0' ++ ds

def toChars (u : Uuid) : List Char :=
  splitGroups groups u.digits

end Uuid

inductive Subject where
  | farm
  | farmer

def Subject.name : Subject → String
  | .farm => "farm"
  | .farmer => "farmer"

structure Identifier (subject : Subject) where
  uuid : Uuid
deriving DecidableEq

abbrev FarmId := Identifier .farm
abbrev FarmerId := Identifier .farmer

structure MalformedId where
  kind : String
  raw : String
deriving DecidableEq

namespace MalformedId

def message (e : MalformedId) : String :=
  s!"{e.kind} id must be a valid UUID (got {Text.quoted e.raw})"

end MalformedId

namespace Identifier

variable {subject : Subject}

def rank (i : Identifier subject) : Nat :=
  i.uuid.value.val

theorem rank_inj {i j : Identifier subject} : i.rank = j.rank ↔ i = j := by
  obtain ⟨⟨a, ha⟩⟩ := i
  obtain ⟨⟨b, hb⟩⟩ := j
  simp [rank]

instance : Ord (Identifier subject) := ⟨compareOn rank⟩

instance : Std.TransOrd (Identifier subject) :=
  inferInstanceAs (Std.TransCmp (compareOn rank))

instance : Std.LawfulEqOrd (Identifier subject) where
  eq_of_compare h := rank_inj.1 (Nat.compare_eq_eq.1 h)

instance : ToString (Identifier subject) := ⟨fun i => String.ofList i.uuid.toChars⟩

def parse (raw : String) : Except MalformedId (Identifier subject) :=
  match Uuid.ofChars? (Text.trim raw.toList) with
  | some u => .ok ⟨u⟩
  | none => .error ⟨subject.name, raw⟩

end Identifier

def FarmId.parse : String → Except MalformedId FarmId :=
  Identifier.parse

def FarmerId.parse : String → Except MalformedId FarmerId :=
  Identifier.parse

end FarmRegistry
