import FarmRegistry.Json.Number
import FarmRegistry.Text.Blank
import FarmRegistry.Toml.Token

namespace FarmRegistry.Environment

open Json

def signed (cs : List Char) : Bool × List Char :=
  match cs with
  | '-' :: rest => (true, rest)
  | '+' :: rest => (false, rest)
  | rest => (false, rest)

def whole? (cs : List Char) : Option Int :=
  let (negative, ds) := signed cs
  let n := natOfDigits ds
  if ds.isEmpty || !ds.all Char.isDigit then none
  else if negative then if n ≤ twoTo 63 then some (-n) else none
  else if n < twoTo 64 then some n
  else none

def numeral? (cs : List Char) : Option Numeral :=
  let (negative, body) := signed cs
  let whole := body.takeWhile Char.isDigit
  match body.dropWhile Char.isDigit with
  | '.' :: rest =>
    let fraction := rest.takeWhile Char.isDigit
    if whole.isEmpty && fraction.isEmpty then none
    else
      match rest.dropWhile Char.isDigit with
      | [] => some ⟨negative, whole, some fraction, none⟩
      | e :: exponent =>
        if (e != 'e' && e != 'E') || exponent.isEmpty then none
        else (Numeral.readExponent exponent).map (⟨negative, whole, some fraction, ·⟩)
  | _ => none

def plain (cs : List Char) : Json :=
  match numeral? cs, whole? cs with
  | some n, _ => .decimal n.toFloat
  | none, some n => .integer n
  | none, none => .string (String.ofList cs)

def filling (bytes : Nat) (cs : List Char) : Option (List Char) :=
  match cs with
  | [] => if bytes = 0 then some [] else none
  | c :: rest =>
    if bytes = 0 then some []
    else if c.utf8Size ≤ bytes then (filling (bytes - c.utf8Size) rest).map (c :: ·)
    else none

def unquote (cs : List Char) : Option (List Char) := do
  let text ← Toml.Token.unescape false cs
  let start := cs.takeWhile (· != '\\')
  if start = cs then return text
  return (← filling start.length start) ++ text.drop start.length

def isGap (c : Char) : Bool :=
  c = ' ' || c = '\t' || c = '\n' || c = '\x0c' || c = '\r'

def isSeparator (c : Char) : Bool :=
  c = ',' || c = '[' || c = ']' || c = '\x7b' || c = '\x7d'

def isNameChar (c : Char) : Bool :=
  c.isAlphanum || c = '_' || c = '-'

def quoted? (cs : List Char) : Option (String × List Char) := do
  let rest ← Toml.Token.behind '"' true cs
  return (String.ofList (← unquote (Toml.Token.inside '"' true cs)), rest)

def name? (cs : List Char) : Option (String × List Char) :=
  match cs with
  | '"' :: rest => quoted? rest
  | cs =>
    let name := cs.takeWhile isNameChar
    if name.isEmpty then none else some (String.ofList name, cs.dropWhile isNameChar)

mutual

def value? (fuel : Nat) (cs : List Char) : Option (Json × List Char) :=
  match fuel with
  | 0 => none
  | fuel + 1 => do
    let (j, rest) ←
      match cs.dropWhile isGap with
      | 't' :: 'r' :: 'u' :: 'e' :: rest => some (.bool true, rest)
      | 'f' :: 'a' :: 'l' :: 's' :: 'e' :: rest => some (.bool false, rest)
      | '\x7b' :: rest => (table? fuel rest).map fun (fields, rest) => (.object fields, rest)
      | '[' :: rest => (list? fuel rest).map fun (items, rest) => (.array items, rest)
      | '"' :: rest => (quoted? rest).map fun (s, rest) => (.string s, rest)
      | '\'' :: c :: '\'' :: rest => some (.string (String.ofList [c]), rest)
      | '\'' :: _ => none
      | cs =>
        let (letters, rest) := cs.span (!isSeparator ·)
        some (plain (Text.trim letters), rest)
    return (j, rest.dropWhile isGap)

def list? (fuel : Nat) (cs : List Char) : Option (List Json × List Char) :=
  match fuel with
  | 0 => none
  | fuel + 1 =>
    match cs with
    | ']' :: rest => some ([], rest)
    | cs => do
      let (j, rest) ← value? fuel cs
      match rest with
      | ',' :: rest => (list? fuel rest).map fun (items, rest) => (j :: items, rest)
      | ']' :: rest => some ([j], rest)
      | _ => none

def table? (fuel : Nat) (cs : List Char) : Option (Fields × List Char) :=
  match fuel with
  | 0 => none
  | fuel + 1 =>
    match cs with
    | '\x7d' :: rest => some ([], rest)
    | cs => do
      let (name, rest) ← name? (cs.dropWhile isGap)
      match rest.dropWhile isGap with
      | '=' :: rest =>
        let (j, rest) ← value? fuel rest
        match rest with
        | ',' :: rest => (table? fuel rest).map fun (fields, rest) => (Fields.set fields name j, rest)
        | '\x7d' :: rest => some ([(name, j)], rest)
        | _ => none
      | _ => none

end

def read? (cs : List Char) : Option Json :=
  match value? (2 * cs.length + 1) cs with
  | some (j, []) => some j
  | _ => none

def isStructured (cs : List Char) : Bool :=
  match cs with
  | c :: _ => c = '"' || c = '\'' || c = '[' || c = '\x7b'
  | [] => false

/-- The value that a variable gives to a setting, without the blanks around it. Commas make a list, but not
behind a quote or a bracket. What cannot be read is a plain text. -/
def valueOf (raw : String) : Json :=
  let cs := Text.trim raw.toList
  if !isStructured cs && cs.contains ',' then
    .array ((cs.splitOn ',').map fun c => .string (String.ofList (Text.trim c)))
  else
    match String.ofList (cs.map Char.toLower) with
    | "true" => .bool true
    | "false" => .bool false
    | _ => (read? cs).getD (.string raw)

end FarmRegistry.Environment
