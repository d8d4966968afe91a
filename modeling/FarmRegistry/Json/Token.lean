namespace FarmRegistry.Json

inductive Token where
  | openArray
  | closeArray
  | openObject
  | closeObject
  | comma
  | colon
  | word (letters : List Char)
  | number (text : List Char)
  | string (s : List Char)
deriving DecidableEq

namespace Token

def isGap (c : Char) : Bool :=
  c = ' ' || c = '\n' || c = '\r' || c = '\t'

def isNumberChar (c : Char) : Bool :=
  c.isDigit || c = '-' || c = '+' || c = '.' || c = 'e' || c = 'E'

def hexValue? (c : Char) : Option Nat :=
  if c.isDigit then some (c.toNat - '0'.toNat)
  else if 'a' ≤ c && c ≤ 'f' then some (c.toNat - 'a'.toNat + 10)
  else if 'A' ≤ c && c ≤ 'F' then some (c.toNat - 'A'.toNat + 10)
  else none

def fourHex? (a b c d : Char) : Option Nat := do
  return (((← hexValue? a) * 16 + (← hexValue? b)) * 16 + (← hexValue? c)) * 16 + (← hexValue? d)

def isHighSurrogate (n : Nat) : Bool :=
  0xD800 ≤ n && n < 0xDC00

def isLowSurrogate (n : Nat) : Bool :=
  0xDC00 ≤ n && n < 0xE000

def simpleEscape? (c : Char) : Option Char :=
  match c with
  | '"' => some '"'
  | '\\' => some '\\'
  | '/' => some '/'
  | 'b' => some '\x08'
  | 'f' => some '\x0c'
  | 'n' => some '\n'
  | 'r' => some '\r'
  | 't' => some '\t'
  | _ => none

def unescape : List Char → Option (List Char)
  | [] => some []
  | '\\' :: 'u' :: a :: b :: c :: d :: rest =>
    match fourHex? a b c d with
    | none => none
    | some n =>
      if isHighSurrogate n then
        match rest with
        | '\\' :: 'u' :: a :: b :: c :: d :: rest =>
          match fourHex? a b c d with
          | none => none
          | some m =>
            if isLowSurrogate m then
              (unescape rest).map (Char.ofNat (0x10000 + (n - 0xD800) * 0x400 + (m - 0xDC00)) :: ·)
            else none
        | _ => none
      else if isLowSurrogate n then none
      else (unescape rest).map (Char.ofNat n :: ·)
  | '\\' :: c :: rest =>
    match simpleEscape? c with
    | none => none
    | some e => (unescape rest).map (e :: ·)
  | c :: rest => if c.toNat < 0x20 || c = '\\' then none else (unescape rest).map (c :: ·)

def quotedPart : List Char → List Char
  | [] => []
  | '"' :: _ => []
  | '\\' :: c :: rest => '\\' :: c :: quotedPart rest
  | c :: rest => c :: quotedPart rest

def afterQuote : List Char → Option (List Char)
  | [] => none
  | '"' :: rest => some rest
  | '\\' :: _ :: rest => afterQuote rest
  | _ :: rest => afterQuote rest

theorem length_afterQuote {text rest : List Char} (h : afterQuote text = some rest) :
    rest.length < text.length := by
  fun_induction afterQuote text <;> grind

def scan (text : List Char) : Option (List Token) :=
  match text with
  | [] => some []
  | c :: rest =>
    if isGap c then scan rest
    else if c = '[' then (scan rest).map (.openArray :: ·)
    else if c = ']' then (scan rest).map (.closeArray :: ·)
    else if c = '\x7b' then (scan rest).map (.openObject :: ·)
    else if c = '\x7d' then (scan rest).map (.closeObject :: ·)
    else if c = ',' then (scan rest).map (.comma :: ·)
    else if c = ':' then (scan rest).map (.colon :: ·)
    else if c = '"' then
      match h : afterQuote rest, unescape (quotedPart rest) with
      | some after, some s =>
        have := length_afterQuote h
        (scan after).map (.string s :: ·)
      | _, _ => none
    else if c.isAlpha then
      have := (List.dropWhile_sublist (l := rest) Char.isAlpha).length_le
      (scan (rest.dropWhile Char.isAlpha)).map (.word (c :: rest.takeWhile Char.isAlpha) :: ·)
    else if isNumberChar c then
      have := (List.dropWhile_sublist (l := rest) isNumberChar).length_le
      (scan (rest.dropWhile isNumberChar)).map (.number (c :: rest.takeWhile isNumberChar) :: ·)
    else none
termination_by text.length
decreasing_by all_goals grind

end Token

end FarmRegistry.Json
