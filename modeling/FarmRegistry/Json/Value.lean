namespace FarmRegistry

inductive Json where
  | null
  | bool (b : Bool)
  | integer (n : Int)
  | decimal (x : Float)
  | string (s : String)
  | array (items : List Json)
  | object (fields : List (String × Json))
deriving Inhabited

namespace Json

abbrev Fields := List (String × Json)

namespace Fields

def get? (fields : Fields) (name : String) : Option Json :=
  fields.lookup name

def set (fields : Fields) (name : String) (value : Json) : Fields :=
  match fields with
  | [] => [(name, value)]
  | (n, v) :: rest => if n = name then (n, value) :: rest else (n, v) :: set rest name value

theorem get?_cons (n name : String) (v : Json) (rest : Fields) :
    Fields.get? ((n, v) :: rest) name = if name = n then some v else Fields.get? rest name := by
  simp only [get?, List.lookup_cons]
  by_cases h : name = n
  · simp [h]
  · simp [h, beq_eq_false_iff_ne.2 h]

end Fields

def field? (j : Json) (name : String) : Option Json :=
  match j with
  | .object fields => Fields.get? fields name
  | _ => none

end Json

end FarmRegistry
