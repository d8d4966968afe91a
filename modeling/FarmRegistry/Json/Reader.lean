import FarmRegistry.Json.Number
import FarmRegistry.Json.Token

namespace FarmRegistry.Json

inductive Frame where
  | items (done : List Json)
  | fields (done : Fields) (name : String)

inductive Expecting where
  | value
  | firstItem
  | firstField (done : Fields)
  | field (done : Fields)
  | separator (read : Json)
  | name (done : Fields) (name : String)

def scalar? : Token → Option Json
  | .word letters =>
    if letters = "null".toList then some .null
    else if letters = "true".toList then some (.bool true)
    else if letters = "false".toList then some (.bool false)
    else none
  | .number text => (Numeral.read text).bind Numeral.toJson?
  | .string s => some (.string (String.ofList s))
  | _ => none

def step (expecting : Expecting) (stack : List Frame) (t : Token) : Option (Expecting × List Frame) :=
  match expecting, t, stack with
  | .value, .openArray, _ => some (.firstItem, stack)
  | .value, .openObject, _ => some (.firstField [], stack)
  | .value, t, _ => (scalar? t).map fun j => (.separator j, stack)
  | .firstItem, .closeArray, _ => some (.separator (.array []), stack)
  | .firstItem, .openArray, _ => some (.firstItem, .items [] :: stack)
  | .firstItem, .openObject, _ => some (.firstField [], .items [] :: stack)
  | .firstItem, t, _ => (scalar? t).map fun j => (.separator j, .items [] :: stack)
  | .firstField done, .closeObject, _ => some (.separator (.object done), stack)
  | .firstField done, .string s, _ => some (.name done (String.ofList s), stack)
  | .field done, .string s, _ => some (.name done (String.ofList s), stack)
  | .name done name, .colon, _ => some (.value, .fields done name :: stack)
  | .separator j, .comma, .items done :: stack => some (.value, .items (j :: done) :: stack)
  | .separator j, .closeArray, .items done :: stack =>
    some (.separator (.array (j :: done).reverse), stack)
  | .separator j, .comma, .fields done name :: stack => some (.field (Fields.set done name j), stack)
  | .separator j, .closeObject, .fields done name :: stack =>
    some (.separator (.object (Fields.set done name j)), stack)
  | _, _, _ => none

def readTokens (expecting : Expecting) (stack : List Frame) : List Token → Option Json
  | [] =>
    match expecting, stack with
    | .separator j, [] => some j
    | _, _ => none
  | t :: ts =>
    match step expecting stack t with
    | none => none
    | some (next, stack) => readTokens next stack ts

def read (text : String) : Option Json :=
  (Token.scan text.toList).bind (readTokens .value [])

end FarmRegistry.Json
