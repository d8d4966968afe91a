import FarmRegistry.Registry.Store
import FarmRegistry.Wire.Farm

namespace FarmRegistry

open Json

namespace TotalsDelta

def toJson (d : TotalsDelta) : Json :=
  .object [("farmerId", d.farmerId.toJson), ("area", d.area.toJson), ("farmCount", .integer d.farmCount.val)]

end TotalsDelta

namespace Write

def name : Write → String
  | .insert _ => "insert"
  | .update _ _ => "update"
  | .remove _ _ => "remove"

def toFields (w : Write) : Fields :=
  [("write", .string w.name), ("farmId", w.farmId.toJson),
    ("expectedVersion", (w.expected?.map fun v => .integer v.val).getD .null)]

end Write

namespace Change

def toFields (c : Change) : Fields :=
  c.write.toFields ++ [("deltas", .array (c.deltas.map TotalsDelta.toJson))]

end Change

namespace Call

def toFields : Call → Fields
  | findFarm i => [("farmId", i.toJson)]
  | findFarmer i => [("farmerId", i.toJson)]
  | registerFarmer i => [("farmerId", i.toJson)]
  | commit change => change.toFields
  | listActiveFarms bounds => [("within", (bounds.map BoundingBox.toJson).getD .null)]
  | reconcileFarmer i => [("farmerId", i.toJson)]
  | rebuildIndex => []

def toJson (c : Call) : Json :=
  .object (("call", .string c.name) :: c.toFields)

end Call

namespace FieldValue

def toJson : FieldValue → Json
  | integer n => .integer n
  | decimal x => .decimal x
  | text s => .string s

end FieldValue

namespace Entry

def toJson (e : Entry) : Json :=
  .object [("level", .string e.level.name), ("message", .string e.message),
    ("fields", .object (e.fields.map fun (name, value) => (name, value.toJson)))]

end Entry

end FarmRegistry
