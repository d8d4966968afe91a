namespace FarmRegistry.CommandLine

structure OptionName where
  name : String
  letter : Option Char
  takesValue : Bool

structure Given where
  options : List (String × String)
  awaiting : Option String

namespace Given

def option (name : String) (value : List Char) : Given :=
  ⟨[(name, String.ofList value)], none⟩

def mark (name : String) : Given :=
  option name []

def ofName? (known : List OptionName) (cs : List Char) : Option Given := do
  let o ← known.find? (·.name.toList = cs.takeWhile (· != '='))
  match cs.dropWhile (· != '='), o.takesValue with
  | [], true => return ⟨[], some o.name⟩
  | [], false => return mark o.name
  | _ :: value, true => return option o.name value
  | _ :: _, false => none

def ofLetters? (known : List OptionName) : List Char → Option Given
  | [] => some ⟨[], none⟩
  | c :: rest => do
    let o ← known.find? (·.letter = some c)
    match o.takesValue, rest with
    | false, rest =>
      let others ← ofLetters? known rest
      return { others with options := (o.name, "") :: others.options }
    | true, [] => return ⟨[], some o.name⟩
    | true, '=' :: value => return option o.name value
    | true, value => return option o.name value

def ofWord? (known : List OptionName) (word : List Char) : Option Given :=
  match word with
  | '-' :: '-' :: name => ofName? known name
  | '-' :: letters => ofLetters? known letters
  | _ => none

end Given

def isPlain (word : String) : Bool :=
  match word.toList with
  | '-' :: _ :: _ => false
  | _ => true

def splitOptions (known : List OptionName) (words : List String) :
    Option (List (String × String) × List String) := do
  match words with
  | [] => return ([], [])
  | "--" :: rest => return ([], "--" :: rest)
  | word :: rest =>
    if isPlain word then return ([], word :: rest)
    let given ← Given.ofWord? known word.toList
    match given.awaiting, rest with
    | none, rest =>
      let (found, others) ← splitOptions known rest
      return (given.options ++ found, others)
    | some name, value :: rest =>
      if !isPlain value then none
      let (found, others) ← splitOptions known rest
      return (given.options ++ (name, value) :: found, others)
    | some _, [] => none

def takeOptions (known : List OptionName) (words : List String) :
    Option (List (String × String) × List String) := do
  let (found, others) ← splitOptions known words
  if (found.map (·.1)).Nodup then return (found, others) else none

def onlyOptions (known : List OptionName) (words : List String) : Option (List (String × String)) :=
  match takeOptions known words with
  | some (found, []) => some found
  | some (found, ["--"]) => some found
  | _ => none

end FarmRegistry.CommandLine
