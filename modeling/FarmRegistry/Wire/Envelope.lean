import FarmRegistry.Json.Decode
import FarmRegistry.Registry.Envelope

namespace FarmRegistry

open Json

namespace ErrorCode

def toJson (c : ErrorCode) : Json :=
  .string c.name

def ofName : Decoder ErrorCode := fun j => do
  match ErrorCode.ofName? (← Decode.text j) with
  | some c => return c
  | none => throw (.wrongType j "an error code")

def ofJson : Decoder ErrorCode
  | .object [(name, .null)] => ofName (.string name)
  | j => ofName j

end ErrorCode

namespace Envelope

def toJson (e : Envelope) : Json :=
  .object ([("code", e.code.toJson), ("message", .string e.message)] ++
    e.details.toList.map fun d => ("details", d))

def shape : Shape := ⟨"an error envelope", ["code", "message", "details"]⟩

def parts : Decoder (ErrorCode × String × Option Json) :=
  shape.decode fun p => do
    return (← shape.required p 0 ErrorCode.ofJson, ← shape.required p 1 Decode.text, ← shape.nullable p 2 .ok)

def ofJson : Decoder Envelope := fun j => do
  let (code, message, details) ← parts j
  match Envelope.ofMessage? code message with
  | some e => return { e with details := details }
  | none => throw (.refused blankMessage)

end Envelope

end FarmRegistry
