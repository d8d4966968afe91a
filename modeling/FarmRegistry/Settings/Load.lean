import FarmRegistry.CommandLine.Options
import FarmRegistry.Settings.Basic
import FarmRegistry.Settings.Environment
import FarmRegistry.Toml.Reader

namespace FarmRegistry.Settings

open Json CommandLine

def optionNames : List OptionName :=
  [⟨"database-url", some 'd', true⟩, ⟨"pool-max-size", some 'p', true⟩,
    ⟨"retry-max-attempts", some 'r', true⟩, ⟨"retry-initial-backoff-ms", some 'R', true⟩,
    ⟨"retry-max-backoff-ms", some 'e', true⟩, ⟨"reject-overlaps", some 'E', false⟩]

def fieldOfOption (name : String) : String :=
  String.ofList (name.toList.map fun c => if c = '-' then '_' else c)

def optionValue? (name value : String) : Option Json :=
  let signed := value.toList.head? = some '-'
  match name with
  | "database-url" => some (.string value)
  | "reject-overlaps" => some (.bool true)
  | "pool-max-size" => (Environment.whole? value.toList).map .integer
  | "retry-max-attempts" => (Environment.whole? value.toList).map .integer
  | _ => if signed then none else (Environment.whole? value.toList).map .integer

def ofOptions (words : List String) : Option Fields := do
  if words.isEmpty then return []
  let given ← (← onlyOptions optionNames words).mapM fun (name, value) => do
    return (fieldOfOption name, ← optionValue? name value)
  return ("reject_overlaps", .bool false) :: given

def variableStart : String :=
  "FARMLAND_"

def nameParts (cs : List Char) : List (List Char) :=
  let rec dotted : List Char → List Char
    | '_' :: '_' :: rest => '.' :: dotted rest
    | c :: rest => c :: dotted rest
    | [] => []
  (Text.trim (dotted cs)).splitOn '.'

def ofVariable? (name value : String) : Option (String × Json) :=
  let letters := (Text.trim name.toList).map Char.toLower
  let start := variableStart.toList.map Char.toLower
  let parts := nameParts (letters.drop start.length)
  if !start.isPrefixOf letters || parts.any List.isEmpty then none
  else
    match parts with
    | [] => none
    | [field] => some (String.ofList field, Environment.valueOf value)
    | field :: part :: _ =>
      some (String.ofList field, .object [(String.ofList part, Environment.valueOf value)])

def ofVariables (environment : List (String × String)) : Fields :=
  environment.filterMap fun (name, value) => ofVariable? name value

def ofFile (text : String) : Option Fields := do
  let fields ← Toml.read text
  if (Fields.get? fields "extends").isSome then none else some fields

def overlay (below above : Fields) : Fields :=
  above.foldl (fun fields (name, value) => Fields.set fields name value) below

def defaults : Fields :=
  [("reject_overlaps", .bool false)]

def finite (j : Json) : Json :=
  match j with
  | .decimal x => if Decimal.isFinite x then j else .null
  | j => j

/-- Settings from options, variables and a file. Options count before variables, and those before the file. -/
def load (words : List String) (environment : List (String × String)) (file : Option String) : Option Settings := do
  let options ← ofOptions words
  let filed ← ofFile (file.getD "")
  let fields := overlay (overlay (overlay defaults filed) (ofVariables environment)) options
  (ofJson (.object (fields.map fun (name, j) => (name, finite j)))).toOption

end FarmRegistry.Settings
