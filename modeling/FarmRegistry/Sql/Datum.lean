import FarmRegistry.Id
import FarmRegistry.Json.Value
import FarmRegistry.Number.Bounded
import FarmRegistry.Time.Timestamp

namespace FarmRegistry.Sql

inductive Datum where
  | null
  | truth (b : Bool)
  | integer (n : Signed64)
  | double (x : Float)
  | text (s : String)
  | uuid (u : Uuid)
  | instant (t : Timestamp)
  | json (j : Json)

abbrev Row := List (String × Datum)

namespace Datum

def ofTime (t : Timestamp) : Datum :=
  .instant t.toMicroseconds

def ofTime? (t : Option Timestamp) : Datum :=
  (t.map ofTime).getD .null

end Datum

namespace Row

def column (r : Row) (name : String) : Datum :=
  (r.lookup name).getD .null

def truth? (r : Row) (name : String) : Option Bool :=
  match r.column name with
  | .truth b => some b
  | _ => none

def integer? (r : Row) (name : String) : Option Signed64 :=
  match r.column name with
  | .integer n => some n
  | _ => none

def text? (r : Row) (name : String) : Option String :=
  match r.column name with
  | .text s => some s
  | _ => none

def uuid? (r : Row) (name : String) : Option Uuid :=
  match r.column name with
  | .uuid u => some u
  | _ => none

def instant? (r : Row) (name : String) : Option Timestamp :=
  match r.column name with
  | .instant t => some t
  | _ => none

def json? (r : Row) (name : String) : Option Json :=
  match r.column name with
  | .json j => some j
  | _ => none

end Row

end FarmRegistry.Sql
