import FarmRegistry.Farm.Area
import FarmRegistry.Geometry.BoundingBox
import FarmRegistry.Id
import FarmRegistry.Json.Value
import FarmRegistry.Time.Timestamp

namespace FarmRegistry

inductive FarmState where
  | active
  | deleted (moment : Timestamp)
deriving DecidableEq

namespace FarmState

def ofDeletion : Option Timestamp → FarmState
  | none => .active
  | some t => .deleted t

def deletion : FarmState → Option Timestamp
  | .active => none
  | .deleted t => some t

theorem ofDeletion_deletion (s : FarmState) : ofDeletion s.deletion = s := by
  cases s <;> rfl

def isActive : FarmState → Bool
  | .active => true
  | .deleted _ => false

end FarmState

structure Metadata where
  fields : Json.Fields

namespace Metadata

def empty : Metadata := ⟨[]⟩

instance : Inhabited Metadata := ⟨empty⟩

def ofJson? : Json → Option Metadata
  | .object fields => some ⟨fields⟩
  | .null => some empty
  | _ => none

def toJson (m : Metadata) : Json :=
  .object m.fields

def get? (m : Metadata) (name : String) : Option Json :=
  m.fields.get? name

def refusal : String :=
  "farm metadata must be a JSON object"

theorem ofJson?_toJson (m : Metadata) : ofJson? m.toJson = some m := rfl

end Metadata

structure Farm where
  id : FarmId
  farmerId : FarmerId
  polygon : Polygon
  area : Area
  status : FarmState
  metadata : Metadata
  version : Signed64
  createdAt : Timestamp
  updatedAt : Timestamp

namespace Farm

def firstVersion : Signed64 := ⟨1, by decide, by decide⟩

def create (id : FarmId) (farmerId : FarmerId) (polygon : Polygon) (metadata : Metadata) (now : Timestamp) :
    Farm :=
  ⟨id, farmerId, polygon, .ofPolygon polygon, .active, metadata, firstVersion, now, now⟩

def isActive (f : Farm) : Bool :=
  f.status.isActive

def boundingBox (f : Farm) : BoundingBox :=
  f.polygon.boundingBox

def nextVersion (f : Farm) (now : Timestamp) : Except Overflow Farm :=
  match Bounded.ofInt? (f.version.val + 1) with
  | some v => .ok { f with version := v, updatedAt := now }
  | none => .error .add

def reshaped (f : Farm) (polygon : Polygon) (now : Timestamp) : Except Overflow Farm :=
  (f.nextVersion now).map ({ · with polygon := polygon, area := .ofPolygon polygon })

def retired (f : Farm) (now : Timestamp) : Except Overflow Farm :=
  (f.nextVersion now).map ({ · with status := .deleted now })

def restored (f : Farm) (now : Timestamp) : Except Overflow Farm :=
  (f.nextVersion now).map ({ · with status := .active })

def reassigned (f : Farm) (farmerId : FarmerId) (now : Timestamp) : Except Overflow Farm :=
  (f.nextVersion now).map ({ · with farmerId := farmerId })

end Farm

end FarmRegistry
