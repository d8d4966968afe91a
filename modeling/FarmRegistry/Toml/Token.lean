import FarmRegistry.Json.Token

namespace FarmRegistry.Toml

inductive Token where
  | newline
  | equals
  | comma
  | openBracket (doubled : Bool)
  | closeBracket (doubled : Bool)
  | openBrace
  | closeBrace
  | word (letters : List Char)
  | string (s : List Char) (long : Bool)
deriving DecidableEq

namespace Token

def isBlank (c : Char) : Bool :=
  c = ' ' || c = '\t'

def isWordChar (c : Char) : Bool :=
  c.isAlphanum || c = '_' || c = '-' || c = '+' || c = '.' || c = ':'

def isControl (c : Char) : Bool :=
  (c.toNat < 0x20 && c != '\t') || c.toNat = 0x7F

def hexChar? (ds : List Char) (width : Nat) : Option Char := do
  let values ← ds.mapM Json.Token.hexValue?
  let n := values.foldl (fun n v => n * 16 + v) 0
  if ds.length = width && n.isValidChar then some (Char.ofNat n) else none

def simpleEscape? (c : Char) : Option Char :=
  if c = '/' then none else Json.Token.simpleEscape? c

def isGap (c : Char) : Bool :=
  isBlank c || c = '\n'

def isLineEnd (cs : List Char) : Bool :=
  (cs.dropWhile isBlank).head? = some '\n'

def unescape (long : Bool) (cs : List Char) : Option (List Char) :=
  match cs with
  | [] => some []
  | '\\' :: rest =>
    if long && isLineEnd rest then
      have := (List.dropWhile_sublist (l := rest) isGap).length_le
      unescape long (rest.dropWhile isGap)
    else
      match rest with
      | [] => none
      | c :: rest =>
        if c = 'u' || c = 'U' then
          let width := if c = 'u' then 4 else 8
          match hexChar? (rest.take width) width with
          | none => none
          | some e => (unescape long (rest.drop width)).map (e :: ·)
        else
          match simpleEscape? c with
          | none => none
          | some e => (unescape long rest).map (e :: ·)
  | c :: rest =>
    if isControl c && !(long && c = '\n') then none
    else (unescape long rest).map (c :: ·)
termination_by cs.length
decreasing_by all_goals grind

def literal (long : Bool) (cs : List Char) : Option (List Char) :=
  match cs with
  | [] => some []
  | c :: rest =>
    if isControl c && !(long && c = '\n') then none
    else (literal long rest).map (c :: ·)

def inside (quote : Char) (escapes : Bool) : List Char → List Char
  | [] => []
  | [c] => if c = quote then [] else [c]
  | c :: d :: rest =>
    if c = quote then []
    else if escapes && c = '\\' then c :: d :: inside quote escapes rest
    else c :: inside quote escapes (d :: rest)

def behind (quote : Char) (escapes : Bool) : List Char → Option (List Char)
  | [] => none
  | [c] => if c = quote then some [] else none
  | c :: d :: rest =>
    if c = quote then some (d :: rest)
    else if escapes && c = '\\' then behind quote escapes rest
    else behind quote escapes (d :: rest)

theorem length_behind {quote : Char} {escapes : Bool} {cs rest : List Char}
    (h : behind quote escapes cs = some rest) : rest.length < cs.length := by
  fun_induction behind quote escapes cs <;> grind

def ownQuotes (quote : Char) (cs : List Char) : Nat :=
  ((cs.take 2).takeWhile (· = quote)).length

def longInside (quote : Char) (escapes : Bool) : List Char → List Char
  | c :: d :: e :: rest =>
    if c = quote && d = quote && e = quote then List.replicate (ownQuotes quote rest) quote
    else if escapes && c = '\\' then c :: d :: longInside quote escapes (e :: rest)
    else c :: longInside quote escapes (d :: e :: rest)
  | cs => cs

def longBehind (quote : Char) (escapes : Bool) : List Char → Option (List Char)
  | c :: d :: e :: rest =>
    if c = quote && d = quote && e = quote then some (rest.drop (ownQuotes quote rest))
    else if escapes && c = '\\' then longBehind quote escapes (e :: rest)
    else longBehind quote escapes (d :: e :: rest)
  | _ => none

theorem length_longBehind {quote : Char} {escapes : Bool} {cs rest : List Char}
    (h : longBehind quote escapes cs = some rest) : rest.length < cs.length := by
  fun_induction longBehind quote escapes cs <;> grind

def plainEnds : List Char → List Char
  | '\r' :: '\n' :: rest => '\n' :: plainEnds rest
  | c :: rest => c :: plainEnds rest
  | [] => []

def withoutFirstEnd : List Char → List Char
  | '\n' :: rest => rest
  | cs => cs

def short? (quote : Char) (cs : List Char) : Option Token :=
  let escapes := quote = '"'
  let s := inside quote escapes cs
  (if escapes then unescape false s else literal false s).map (.string · false)

def long? (quote : Char) (cs : List Char) : Option Token :=
  let escapes := quote = '"'
  let s := withoutFirstEnd (plainEnds (longInside quote escapes cs))
  (if escapes then unescape true s else literal true s).map (.string · true)

def punctuation? (c : Char) (rest : List Char) : Option Token :=
  match c with
  | '=' => some .equals
  | ',' => some .comma
  | '[' => some (.openBracket (rest.head? = some '['))
  | ']' => some (.closeBracket (rest.head? = some ']'))
  | '\x7b' => some .openBrace
  | '\x7d' => some .closeBrace
  | _ => none

def outline (cs : List Char) : String :=
  String.ofList (cs.map fun c => if c.isDigit then '0' else c)

def wordLength (cs : List Char) : Nat :=
  let word := cs.takeWhile isWordChar
  match cs.dropWhile isWordChar with
  | ' ' :: rest =>
    if outline word = "0000-00-00" && outline (rest.take 3) = "00:" then
      word.length + 1 + (rest.takeWhile isWordChar).length
    else word.length
  | _ => word.length

def isComment (cs : List Char) : Bool :=
  let letters := cs.takeWhile (· != '\n')
  let ended := letters.length < cs.length
  !(if ended && letters.getLast? = some '\r' then letters.dropLast else letters).any isControl

def scan (text : List Char) : Option (List Token) :=
  match text with
  | [] => some []
  | c :: rest =>
    if isBlank c then scan rest
    else if c = '\n' then (scan rest).map (.newline :: ·)
    else if c = '\r' then if rest.head? = some '\n' then scan rest else none
    else if c = '#' then
      have := (List.dropWhile_sublist (l := rest) (· != '\n')).length_le
      if isComment rest then scan (rest.dropWhile (· != '\n')) else none
    else if c = '"' || c = '\'' then
      if [c, c].isPrefixOf rest then
        match h : longBehind c (c = '"') (rest.drop 2), long? c (rest.drop 2) with
        | some after, some t =>
          have := length_longBehind h
          (scan after).map (t :: ·)
        | _, _ => none
      else
        match h : behind c (c = '"') rest, short? c rest with
        | some after, some t =>
          have := length_behind h
          (scan after).map (t :: ·)
        | _, _ => none
    else if isWordChar c then
      let n := wordLength (c :: rest)
      (scan (rest.drop (n - 1))).map (.word ((c :: rest).take n) :: ·)
    else
      match punctuation? c rest with
      | none => none
      | some t => (scan rest).map (t :: ·)
termination_by text.length
decreasing_by all_goals grind

end Token

end FarmRegistry.Toml
