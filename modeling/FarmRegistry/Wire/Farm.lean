import FarmRegistry.Totals.Farmer
import FarmRegistry.Wire.Geometry

namespace FarmRegistry

open Json

namespace Timestamp

def toJson (t : Timestamp) : Json :=
  .string (toString t)

def ofJson : Decoder Timestamp := fun j => do
  let s ← Decode.text j
  match Timestamp.parse? s with
  | some t => return t
  | none => throw (.refused "input contains invalid characters")

end Timestamp

namespace Area

def toJson (a : Area) : Json :=
  .integer a.val

def ofJson : Decoder Area := fun j => (Decode.bounded _ _ j).map Area.mk

end Area

namespace FarmState

def toJson : FarmState → Json
  | .active => .object [("state", .string "active")]
  | .deleted t => .object [("state", .string "deleted"), ("at", t.toJson)]

def ofJson : Decoder FarmState
  | .object fields =>
    match Fields.get? fields "state" with
    | some (.string "active") => .ok .active
    | some (.string "deleted") =>
      match Fields.get? fields "at" with
      | some t => (Timestamp.ofJson t).map .deleted
      | none => .error (.missingField "at")
    | some j => .error (.wrongType j "a state")
    | none => .error (.missingField "state")
  | .array [.string "active"] => .ok .active
  | .array [.string "deleted", t] => (Timestamp.ofJson t).map .deleted
  | j => .error (.wrongType j "a state")

end FarmState

namespace Metadata

def ofObject : Decoder Metadata
  | .object fields => .ok ⟨fields⟩
  | j => .error (.wrongType j "a map")

end Metadata

namespace Farm

def toJson (f : Farm) : Json :=
  .object [("id", f.id.toJson), ("farmerId", f.farmerId.toJson), ("polygon", f.polygon.toJson),
    ("area", f.area.toJson), ("status", f.status.toJson), ("metadata", f.metadata.toJson),
    ("version", .integer f.version.val), ("createdAt", f.createdAt.toJson), ("updatedAt", f.updatedAt.toJson)]

end Farm

namespace Farmer

def toJson (f : Farmer) : Json :=
  .object [("id", f.id.toJson), ("totalArea", f.totalArea.toJson), ("farmCount", .integer f.farmCount.val)]

def shape : Shape := ⟨"a farmer", ["id", "totalArea", "farmCount"]⟩

def ofJson : Decoder Farmer :=
  shape.decode fun p => do
    return ⟨← shape.required p 0 FarmerId.ofJson, ← shape.required p 1 Area.ofJson,
      ← shape.required p 2 (Decode.bounded _ _)⟩

end Farmer

end FarmRegistry
