import FarmRegistry.Decimal.Layout
import FarmRegistry.Json.Value

namespace FarmRegistry.Json

def lowHex (n width : Nat) : List Char :=
  let ds := Nat.toDigits 16 n
  List.replicate (width - ds.length) '0' ++ ds

def unicodeEscape (n : Nat) : List Char :=
  '\\' :: 'u' :: lowHex n 4

def escape (ascii : Bool) (c : Char) : List Char :=
  if c = '"' then ['\\', '"']
  else if c = '\\' then ['\\', '\\']
  else if c = '\x08' then ['\\', 'b']
  else if c = '\x0c' then ['\\', 'f']
  else if c = '\n' then ['\\', 'n']
  else if c = '\r' then ['\\', 'r']
  else if c = '\t' then ['\\', 't']
  else if c.toNat < 0x20 then unicodeEscape c.toNat
  else if ascii && 0x7F < c.toNat then
    if c.toNat < 0x10000 then unicodeEscape c.toNat
    else unicodeEscape (0xD800 + (c.toNat - 0x10000) / 0x400) ++
      unicodeEscape (0xDC00 + (c.toNat - 0x10000) % 0x400)
  else [c]

def writeString (ascii : Bool) (s : String) : String :=
  String.ofList ('"' :: s.toList.flatMap (escape ascii) ++ ['"'])

mutual

def write (ascii : Bool) (j : Json) : String :=
  match j with
  | .null => "null"
  | .bool true => "true"
  | .bool false => "false"
  | .integer n => toString n
  | .decimal x => Decimal.Layout.interchange.render x
  | .string s => writeString ascii s
  | .array items => "[" ++ ",".intercalate (writeItems ascii items) ++ "]"
  | .object fields => "\x7b" ++ ",".intercalate (writeFields ascii fields) ++ "\x7d"

def writeItems (ascii : Bool) (items : List Json) : List String :=
  match items with
  | [] => []
  | j :: rest => write ascii j :: writeItems ascii rest

def writeFields (ascii : Bool) (fields : List (String × Json)) : List String :=
  match fields with
  | [] => []
  | (name, j) :: rest => (writeString ascii name ++ ":" ++ write ascii j) :: writeFields ascii rest

end

end FarmRegistry.Json
