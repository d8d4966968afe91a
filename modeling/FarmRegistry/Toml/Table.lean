import FarmRegistry.Toml.Scalar

namespace FarmRegistry.Toml

open Json

/-- How a table came to be: by its own header, on the way of another one's, or on the way of a name with
dots. A list of tables comes to be by the headers of its tables. -/
inductive Origin where
  | header
  | passage
  | dots
  | list
deriving DecidableEq

def within (change : Fields → Option Fields) : List String → Fields → Option Fields
  | [], fields => change fields
  | name :: rest, fields =>
    match Fields.get? fields name with
    | some (.object inner) =>
      (within change rest inner).map fun inner => Fields.set fields name (.object inner)
    | some (.array items) =>
      match items.getLast? with
      | some (.object inner) =>
        (within change rest inner).map fun inner =>
          Fields.set fields name (.array (items.dropLast ++ [.object inner]))
      | _ => none
    | _ => none

def addField (name : String) (j : Json) (fields : Fields) : Option Fields :=
  if (Fields.get? fields name).isSome || (fields.isEmpty && name = momentName && !isMomentText j) then none
  else some (Fields.set fields name j)

def addTable (name : String) (fields : Fields) : Option Fields :=
  match Fields.get? fields name with
  | some (.array items) => some (Fields.set fields name (.array (items ++ [.object []])))
  | _ => none

structure Table where
  fields : Fields
  origins : List (List String × Origin)

namespace Table

def empty : Table :=
  ⟨[], []⟩

def origin? (t : Table) (path : List String) : Option Origin :=
  t.origins.lookup path

def mark (t : Table) (path : List String) (o : Origin) : Table :=
  { t with origins := (path, o) :: t.origins }

def change (t : Table) (path : List String) (f : String → Fields → Option Fields) : Option Table :=
  match path.getLast? with
  | none => none
  | some name => (within (f name) path.dropLast t.fields).map ({ t with fields := · })

def insert (t : Table) (path : List String) (j : Json) : Option Table :=
  t.change path fun name => addField name j

def reach (t : Table) (o : Origin) (home : List String) : List String → Option Table
  | [] => some t
  | name :: rest =>
    let path := home ++ [name]
    match t.origin? path with
    | none => do
      let t ← t.insert path (.object [])
      (t.mark path o).reach o path rest
    | some .header => if o = .dots then none else t.reach o path rest
    | some _ => t.reach o path rest

def assign (t : Table) (home path : List String) (j : Json) : Option Table := do
  let way := path.dropLast
  let t ← t.reach .dots home way
  if way.isEmpty || t.origin? (home ++ way) = some .dots then t.insert (home ++ path) j else none

def openTable (t : Table) (path : List String) : Option Table := do
  let t ← t.reach .passage [] path.dropLast
  match t.origin? path with
  | none => return (← t.insert path (.object [])).mark path .header
  | some .passage => return t.mark path .header
  | some _ => none

def openListed (t : Table) (path : List String) : Option Table := do
  let t ← t.reach .passage [] path.dropLast
  match t.origin? path with
  | none => return (← t.insert path (.array [.object []])).mark path .list
  | some .list =>
    let t ← t.change path addTable
    let above := t.origins.filter fun (other, _) => other = path || !path.isPrefixOf other
    return { t with origins := above }
  | some _ => none

end Table

end FarmRegistry.Toml
