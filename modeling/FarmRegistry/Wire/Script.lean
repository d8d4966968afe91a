import FarmRegistry.Sql.Script
import FarmRegistry.Wire.Farm

namespace FarmRegistry.Sql

open Json

namespace Datum

def toJson : Datum → Json
  | null => .null
  | truth b => .bool b
  | integer n => .integer n.val
  | double x => .decimal x
  | text s => .string s
  | uuid u => .string (String.ofList u.toChars)
  | instant t => t.toJson
  | json j => j

def jsonColumns : List String :=
  ["boundary", "metadata"]

def uuidColumns : List String :=
  ["id", "farmer_id"]

def instantColumns : List String :=
  ["deleted_at", "created_at", "updated_at"]

def ofJson (column : String) : Decoder Datum
  | .object [("null", .bool true)] => .ok .null
  | j =>
    if jsonColumns.contains column then .ok (.json j)
    else
      match j with
      | .null => .ok .null
      | .bool b => .ok (.truth b)
      | .integer n => (Decode.bounded _ _ (.integer n)).map .integer
      | .decimal x => .ok (.double x)
      | j =>
        if uuidColumns.contains column then (Uuid.ofJson j).map .uuid
        else if instantColumns.contains column then (Timestamp.ofJson j).map .ofTime
        else (Decode.text j).map .text

end Datum

namespace Row

def toJson (r : Row) : Json :=
  .object (r.map fun (name, d) => (name, d.toJson))

def ofJson : Decoder Row
  | .object fields => fields.mapM fun (name, j) => (Datum.ofJson name j).map (name, ·)
  | j => .error (.wrongType j "a map")

end Row

namespace Failure

def ofJson : Decoder Failure := fun j => do
  let part := fun name => (j.field? name).mapM (Decode.optional Decode.text)
  let code ← part "code"
  let message ← part "message"
  let constraint ← part "constraint"
  return ⟨.ofCode ((code.bind id).getD ""), (message.bind id).getD "", constraint.bind id⟩

end Failure

namespace Answer

def ofJson : Decoder Answer := fun j =>
  match j.field? "error", j.field? "rows", j.field? "affected" with
  | some e, _, _ => (Failure.ofJson e).map .failed
  | none, some found, _ => (Decode.list Row.ofJson found).map .rows
  | none, none, some n => (Decode.bounded 0 9223372036854775807 n).map fun n => .affected n.val.toNat
  | none, none, none => .ok .nothing

end Answer

def Statement.toJson (s : Statement) : Json :=
  .object (("stmt", .string s.name) :: if s.params.isEmpty then [] else [("params", Row.toJson s.params)])

end FarmRegistry.Sql
