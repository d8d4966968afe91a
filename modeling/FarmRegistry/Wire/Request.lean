import FarmRegistry.Wire.Farm

namespace FarmRegistry

open Json

structure CreateRequest where
  farmerId : FarmerId
  boundary : Ring
  metadata : Metadata

structure ReshapeRequest where
  farmId : FarmId
  boundary : Ring

structure ReassignRequest where
  farmId : FarmId
  farmerId : FarmerId

structure OverlapRequest where
  boundary : Ring
  excludeFarmId : Option FarmId

namespace CreateRequest

def toJson (r : CreateRequest) : Json :=
  .object [("farmerId", r.farmerId.toJson), ("boundary", Ring.toJson r.boundary),
    ("metadata", r.metadata.toJson)]

def shape : Shape := ⟨"a request to create a farm", ["farmerId", "boundary", "metadata"]⟩

def ofJson : Decoder CreateRequest :=
  shape.decode fun p => do
    return ⟨← shape.required p 0 FarmerId.ofJson, ← shape.required p 1 Ring.ofJson,
      ← shape.defaulted p 2 .empty Metadata.ofObject⟩

end CreateRequest

namespace ReshapeRequest

def toJson (r : ReshapeRequest) : Json :=
  .object [("farmId", r.farmId.toJson), ("boundary", Ring.toJson r.boundary)]

def shape : Shape := ⟨"a request to reshape a farm", ["farmId", "boundary"]⟩

def ofJson : Decoder ReshapeRequest :=
  shape.decode fun p => do
    return ⟨← shape.required p 0 FarmId.ofJson, ← shape.required p 1 Ring.ofJson⟩

end ReshapeRequest

namespace ReassignRequest

def toJson (r : ReassignRequest) : Json :=
  .object [("farmId", r.farmId.toJson), ("farmerId", r.farmerId.toJson)]

def shape : Shape := ⟨"a request to reassign a farm", ["farmId", "farmerId"]⟩

def ofJson : Decoder ReassignRequest :=
  shape.decode fun p => do
    return ⟨← shape.required p 0 FarmId.ofJson, ← shape.required p 1 FarmerId.ofJson⟩

end ReassignRequest

namespace OverlapRequest

def toJson (r : OverlapRequest) : Json :=
  .object [("boundary", Ring.toJson r.boundary),
    ("excludeFarmId", (r.excludeFarmId.map FarmId.toJson).getD .null)]

def shape : Shape := ⟨"a request for overlaps", ["boundary", "excludeFarmId"]⟩

def ofJson : Decoder OverlapRequest :=
  shape.decode fun p => do
    return ⟨← shape.required p 0 Ring.ofJson, ← shape.defaulted p 1 none (Decode.optional FarmId.ofJson)⟩

end OverlapRequest

end FarmRegistry
