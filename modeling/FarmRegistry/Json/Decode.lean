import FarmRegistry.Decimal.Layout
import FarmRegistry.Json.Number
import FarmRegistry.Number.Bounded
import FarmRegistry.Text.Quoted

namespace FarmRegistry.Json

inductive DecodeError where
  | wrongType (found : Json) (expected : String)
  | missingField (name : String)
  | wrongLength (found : Nat) (expected : String)
  | refused (message : String)

namespace DecodeError

def describe : Json → String
  | .null => "null"
  | .bool b => s!"boolean `{b}`"
  | .integer n => s!"integer `{n}`"
  | .decimal x => s!"floating point `{Decimal.Layout.interchange.render x}`"
  | .string s => s!"string {Text.quoted s}"
  | .array _ => "sequence"
  | .object _ => "map"

def message : DecodeError → String
  | .wrongType found expected => s!"invalid type: {describe found}, expected {expected}"
  | .missingField name => s!"missing field `{name}`"
  | .wrongLength found expected => s!"invalid length {found}, expected {expected}"
  | .refused m => m

end DecodeError

abbrev Decoder (α : Type) := Json → Except DecodeError α

namespace Decode

def text : Decoder String
  | .string s => .ok s
  | j => .error (.wrongType j "a string")

def bool : Decoder Bool
  | .bool b => .ok b
  | j => .error (.wrongType j "a boolean")

def number : Decoder Float
  | .integer n => .ok (floatOfDecimal (n < 0) n.natAbs 0)
  | .decimal x => .ok x
  | j => .error (.wrongType j "f64")

def bounded (lo hi : Int) : Decoder (Bounded lo hi)
  | .integer n =>
    match Bounded.ofInt? n with
    | some b => .ok b
    | none => .error (.refused s!"invalid value: integer `{n}`")
  | j => .error (.wrongType j "an integer")

def list {α : Type} (item : Decoder α) : Decoder (List α)
  | .array items => items.mapM item
  | j => .error (.wrongType j "a sequence")

def optional {α : Type} (item : Decoder α) : Decoder (Option α)
  | .null => .ok none
  | j => (item j).map some

end Decode

inductive Parts where
  | named (fields : Fields)
  | listed (items : List Json)

namespace Parts

def of (shape : String) : Decoder Parts
  | .object fields => .ok (.named fields)
  | .array items => .ok (.listed items)
  | j => .error (.wrongType j shape)

def get? (p : Parts) (index : Nat) (name : String) : Option Json :=
  match p with
  | .named fields => Fields.get? fields name
  | .listed items => items[index]?

def missing (p : Parts) (index count : Nat) (shape name : String) : DecodeError :=
  match p with
  | .named _ => .missingField name
  | .listed _ => .wrongLength index s!"{shape} with {count} elements"

end Parts

structure Shape where
  title : String
  names : List String

namespace Shape

variable {α : Type}

def required (s : Shape) (p : Parts) (index : Nat) (decode : Decoder α) : Except DecodeError α :=
  let name := s.names.getD index ""
  match p.get? index name with
  | some j => decode j
  | none => .error (p.missing index s.names.length s.title name)

def nullable (s : Shape) (p : Parts) (index : Nat) (decode : Decoder α) : Except DecodeError (Option α) :=
  match p, p.get? index (s.names.getD index "") with
  | _, some j => Decode.optional decode j
  | .named _, none => .ok none
  | .listed _, none => .error (p.missing index s.names.length s.title "")

def defaulted (s : Shape) (p : Parts) (index : Nat) (default : α) (decode : Decoder α) :
    Except DecodeError α :=
  match p.get? index (s.names.getD index "") with
  | some j => decode j
  | none => .ok default

def decode (s : Shape) (build : Parts → Except DecodeError α) : Decoder α := fun j => do
  let p ← Parts.of s.title j
  let a ← build p
  match p with
  | .listed items =>
    if s.names.length < items.length then
      .error (.wrongLength items.length "fewer elements in array")
    else return a
  | .named _ => return a

end Shape

end FarmRegistry.Json
