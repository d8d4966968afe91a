import FarmRegistry.Farm.Overlaps
import FarmRegistry.Json.Decode

namespace FarmRegistry

open Json

namespace Vertex

def toJson (v : Vertex) : Json :=
  .object [("lng", .ofFloat v.lng), ("lat", .ofFloat v.lat)]

def shape : Shape := ⟨"struct LngLat", ["lng", "lat"]⟩

def ofJson : Decoder Vertex :=
  shape.decode fun p => do
    match p with
    | .named fields =>
      let lat ← (Fields.get? fields "lat").mapM Decode.number
      let lng ← (Fields.get? fields "lng").mapM Decode.number
      match lng, lat with
      | some lng, some lat => return ⟨lng, lat⟩
      | none, _ => throw (.missingField "lng")
      | _, none => throw (.missingField "lat")
    | .listed _ => return ⟨← shape.required p 0 Decode.number, ← shape.required p 1 Decode.number⟩

end Vertex

def Ring.toJson (ring : Ring) : Json :=
  .array (ring.map Vertex.toJson)

def Ring.ofJson : Decoder Ring :=
  Decode.list Vertex.ofJson

namespace Polygon

def toJson (p : Polygon) : Json :=
  Ring.toJson p.ring

def ofJson : Decoder Polygon := fun j => do
  let ring ← Ring.ofJson j
  (Polygon.ofRing ring).mapError fun e => .refused e.message

end Polygon

namespace BoundingBox

def toJson (b : BoundingBox) : Json :=
  .object [("minLng", .ofFloat b.minLng), ("minLat", .ofFloat b.minLat), ("maxLng", .ofFloat b.maxLng),
    ("maxLat", .ofFloat b.maxLat)]

def shape : Shape := ⟨"a bounding box", ["minLng", "minLat", "maxLng", "maxLat"]⟩

def ofJson : Decoder BoundingBox :=
  shape.decode fun p => do
    let part := fun i => shape.required p i Decode.number
    return ⟨← part 0, ← part 1, ← part 2, ← part 3⟩

end BoundingBox

def Uuid.ofJson : Decoder Uuid := fun j => do
  let s ← Decode.text j
  match Uuid.ofChars? s.toList with
  | some u => return u
  | none => throw (.refused "UUID parsing failed")

namespace FarmId

def toJson (i : FarmId) : Json :=
  .string (toString i)

def ofJson : Decoder FarmId := fun j => (Uuid.ofJson j).map Identifier.mk

end FarmId

namespace FarmerId

def toJson (i : FarmerId) : Json :=
  .string (toString i)

def ofJson : Decoder FarmerId := fun j => (Uuid.ofJson j).map Identifier.mk

end FarmerId

namespace OverlapPair

def toJson (p : OverlapPair) : Json :=
  .object [("first", p.first.toJson), ("second", p.second.toJson), ("intersects", .bool p.intersects)]

def shape : Shape := ⟨"a pair of farms", ["first", "second", "intersects"]⟩

def ofJson : Decoder OverlapPair :=
  shape.decode fun p => do
    return ⟨← shape.required p 0 FarmId.ofJson, ← shape.required p 1 FarmId.ofJson,
      ← shape.required p 2 Decode.bool⟩

end OverlapPair

end FarmRegistry
