import FarmRegistry.Toml.Table

namespace FarmRegistry.Toml

open Json

inductive NamePart where
  | key (s : String)
  | dot

def isBare (cs : List Char) : Bool :=
  cs.all fun c => c.isAlphanum || c = '_' || c = '-'

def nameParts : Token → Option (List NamePart)
  | .word letters =>
    let keys := letters.splitOn '.'
    if keys.all isBare then
      let parts := keys.map fun k => if k.isEmpty then [] else [NamePart.key (String.ofList k)]
      some ([NamePart.dot].intercalate parts)
    else none
  | .string s false => some [.key (String.ofList s)]
  | _ => none

def keys? : List NamePart → Option (List String)
  | [.key s] => some [s]
  | .key s :: .dot :: rest => (keys? rest).map (s :: ·)
  | _ => none

def depthLimit : Nat := 80

def path? (parts : List NamePart) : Option (List String) :=
  match keys? parts with
  | none => none
  | some path => if path.length < depthLimit then some path else none

inductive Frame where
  | named (path : List String)
  | list (done : List Json)
  | table (t : Table)

def Frame.isContainer : Frame → Bool
  | .named _ => false
  | .list _ => true
  | .table _ => true

inductive Expecting where
  | line
  | lineEnd
  | secondBracket
  | header (listed : Bool) (parts : List NamePart)
  | headerEnd (path : List String)
  | entry (first : Bool)
  | name (parts : List NamePart)
  | value
  | item
  | read (j : Json)

structure State where
  expecting : Expecting
  stack : List Frame
  document : Table
  home : List String

namespace State

def empty : State :=
  ⟨.line, [], .empty, []⟩

def startContainer (s : State) (e : Expecting) (f : Frame) : Option State :=
  if s.stack.countP Frame.isContainer + 1 < depthLimit then
    some { s with expecting := e, stack := f :: s.stack }
  else none

def startValue (s : State) : Token → Option State
  | .openBracket _ => s.startContainer .item (.list [])
  | .openBrace => s.startContainer (.entry true) (.table .empty)
  | .word letters => (scalar? letters).map fun j => { s with expecting := .read j }
  | .string text _ => some { s with expecting := .read (.string (String.ofList text)) }
  | _ => none

def finish (s : State) (j : Json) : Token → Option State
  | .newline =>
    match s.stack with
    | [.named path] => (s.document.assign s.home path j).map (⟨.line, [], ·, s.home⟩)
    | .list _ :: _ => some s
    | _ => none
  | .comma =>
    match s.stack with
    | .list done :: rest => some { s with expecting := .item, stack := .list (done ++ [j]) :: rest }
    | .named path :: .table t :: rest =>
      (t.assign [] path j).map fun t => { s with expecting := .entry false, stack := .table t :: rest }
    | _ => none
  | .closeBracket _ =>
    match s.stack with
    | .list done :: rest => some { s with expecting := .read (.array (done ++ [j])), stack := rest }
    | _ => none
  | .closeBrace =>
    match s.stack with
    | .named path :: .table t :: rest =>
      (t.assign [] path j).map fun t => { s with expecting := .read (.object t.fields), stack := rest }
    | _ => none
  | _ => none

def step (s : State) (t : Token) : Option State :=
  match s.expecting, t, s.stack with
  | .line, .newline, _ => some s
  | .line, .openBracket true, _ => some { s with expecting := .secondBracket }
  | .line, .openBracket false, _ => some { s with expecting := .header false [] }
  | .line, t, _ => (nameParts t).map fun parts => { s with expecting := .name parts }
  | .lineEnd, .newline, _ => some { s with expecting := .line }
  | .lineEnd, _, _ => none
  | .secondBracket, _, _ => some { s with expecting := .header true [] }
  | .header false parts, .closeBracket _, _ => do
    let path ← path? parts
    return ⟨.lineEnd, [], ← s.document.openTable path, path⟩
  | .header true parts, .closeBracket true, _ =>
    (path? parts).map fun path => { s with expecting := .headerEnd path }
  | .header listed parts, t, _ =>
    (nameParts t).map fun more => { s with expecting := .header listed (parts ++ more) }
  | .headerEnd path, _, _ => (s.document.openListed path).map (⟨.lineEnd, [], ·, path⟩)
  | .entry true, .closeBrace, .table t :: rest =>
    some { s with expecting := .read (.object t.fields), stack := rest }
  | .entry _, t, _ => (nameParts t).map fun parts => { s with expecting := .name parts }
  | .name parts, .equals, _ =>
    (path? parts).map fun path => { s with expecting := .value, stack := .named path :: s.stack }
  | .name parts, t, _ => (nameParts t).map fun more => { s with expecting := .name (parts ++ more) }
  | .value, t, _ => s.startValue t
  | .item, .newline, _ => some s
  | .item, .closeBracket _, .list done :: rest =>
    some { s with expecting := .read (.array done), stack := rest }
  | .item, t, _ => s.startValue t
  | .read j, t, _ => s.finish j t

end State

def withoutOrderMark (cs : List Char) : List Char :=
  match cs with
  | '\uFEFF' :: rest => rest
  | cs => cs

def read (text : String) : Option Fields := do
  let tokens ← Token.scan (withoutOrderMark text.toList)
  let s ← (tokens ++ [Token.newline]).foldlM State.step .empty
  match s.expecting with
  | .line => return s.document.fields
  | _ => none

end FarmRegistry.Toml
