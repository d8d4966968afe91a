import FarmRegistry.Number.Power
import FarmRegistry.Text.Blank
import FarmRegistry.Time.Calendar

namespace FarmRegistry

structure Timestamp where
  seconds : Int
  nanos : Nat
deriving DecidableEq

namespace Timestamp

def padded (width n : Nat) : List Char :=
  let ds := Nat.toDigits 10 n
  List.replicate (width - ds.length) '0' ++ ds

def yearText (y : Int) : List Char :=
  if 0 ≤ y && y ≤ 9999 then padded 4 y.toNat
  else (if y < 0 then '-' else '+') :: padded 4 y.natAbs

def fractionText (n : Nat) : List Char :=
  if n = 0 then []
  else if n % 1000000 = 0 then '.' :: padded 3 (n / 1000000)
  else if n % 1000 = 0 then '.' :: padded 6 (n / 1000)
  else '.' :: padded 9 n

def toChars (t : Timestamp) : List Char :=
  let date := Time.Date.ofDays (t.seconds / 86400)
  let second := (t.seconds % 86400).toNat
  let leap := if 1000000000 ≤ t.nanos then 1 else 0
  yearText date.year ++ '-' :: padded 2 date.month ++ '-' :: padded 2 date.day ++
    'T' :: padded 2 (second / 3600) ++ ':' :: padded 2 (second / 60 % 60) ++
    ':' :: padded 2 (second % 60 + leap) ++ fractionText (t.nanos % 1000000000) ++ ['Z']

instance : ToString Timestamp := ⟨fun t => String.ofList t.toChars⟩

def addSeconds (t : Timestamp) (n : Int) : Timestamp :=
  if t.nanos < 1000000000 || n = 0 then ⟨t.seconds + n, t.nanos⟩
  else if 0 < n then ⟨t.seconds + n, t.nanos - 1000000000⟩
  else ⟨t.seconds + 1 + n, t.nanos - 1000000000⟩

def millennium : Int := 946684800

def toMicroseconds (t : Timestamp) : Timestamp :=
  let micros := ((t.seconds - millennium) * 1000000000 + t.nanos).tdiv 1000
  ⟨micros / 1000000 + millennium, (micros % 1000000).toNat * 1000⟩

end Timestamp

namespace Time

def skipBlanks (cs : List Char) : List Char :=
  Text.trimLeft cs

def takeDigits : Nat → List Char → List Char × List Char
  | 0, cs => ([], cs)
  | _ + 1, [] => ([], [])
  | n + 1, c :: cs =>
    if c.isDigit then let (ds, rest) := takeDigits n cs; (c :: ds, rest) else ([], c :: cs)

def number (ds : List Char) : Nat :=
  ds.foldl (fun n c => n * 10 + (c.toNat - '0'.toNat)) 0

def readNumber (width : Nat) (cs : List Char) : Option (Nat × List Char) :=
  match takeDigits width (skipBlanks cs) with
  | ([], _) => none
  | (ds, rest) => some (number ds, rest)

def readYear (cs : List Char) : Option (Int × List Char) :=
  match skipBlanks cs with
  | '-' :: rest => if (rest.head?.map Char.isDigit).getD false then
      (readNumber rest.length rest).map fun (n, r) => (-n, r) else none
  | '+' :: rest => if (rest.head?.map Char.isDigit).getD false then
      (readNumber rest.length rest).map fun (n, r) => (n, r) else none
  | cs => (readNumber 4 cs).map fun (n, r) => (n, r)

def readMark (mark : Char) (cs : List Char) : Option (List Char) :=
  match skipBlanks cs with
  | c :: rest => if c = mark then some rest else none
  | [] => none

def readDate (cs : List Char) : Option (Date × List Char) := do
  let (year, cs) ← readYear cs
  let cs ← readMark '-' cs
  let (month, cs) ← readNumber 2 cs
  let cs ← readMark '-' cs
  let (day, cs) ← readNumber 2 cs
  let date : Date := ⟨year, month, day⟩
  if date.isValid then some (date, cs) else none

def readFraction (cs : List Char) : Option (Nat × List Char) :=
  match cs with
  | '.' :: rest =>
    match takeDigits 9 rest with
    | ([], _) => none
    | (ds, rest) => some (number ds * tenTo (9 - ds.length), rest.dropWhile Char.isDigit)
  | cs => some (0, cs)

def readClock (cs : List Char) : Option (Nat × Nat × List Char) := do
  let (hour, cs) ← readNumber 2 cs
  let cs ← readMark ':' cs
  let (minute, cs) ← readNumber 2 cs
  let cs ← readMark ':' cs
  let (second, cs) ← readNumber 2 cs
  let (nanos, cs) ← readFraction cs
  if 23 < hour || 59 < minute || 60 < second then none
  else if second = 60 then some (hour * 3600 + minute * 60 + 59, nanos + 1000000000, cs)
  else some (hour * 3600 + minute * 60 + second, nanos, cs)

def readOffsetDigits (cs : List Char) : Option (Nat × List Char) :=
  match cs with
  | h :: h' :: rest =>
    if h.isDigit && h'.isDigit then
      match rest.dropWhile fun c => c = ':' || Text.isBlank c with
      | m :: m' :: rest =>
        if '0' ≤ m && m ≤ '5' && m'.isDigit then some (number [h, h'] * 3600 + number [m, m'] * 60, rest)
        else none
      | _ => none
    else none
  | _ => none

def readOffset (cs : List Char) : Option (Int × List Char) :=
  match skipBlanks cs with
  | 'z' :: rest => some (0, rest)
  | 'Z' :: rest => some (0, rest)
  | '+' :: rest => (readOffsetDigits rest).map fun (n, r) => (n, r)
  | '-' :: rest => (readOffsetDigits rest).map fun (n, r) => (-n, r)
  | '−' :: rest => (readOffsetDigits rest).map fun (n, r) => (-n, r)
  | a :: b :: c :: rest =>
    if [a, b, c].map Char.toUpper = ['U', 'T', 'C'] then some (0, rest) else none
  | _ => none

def isDateMark (c : Char) : Bool :=
  c = 't' || c = 'T' || c = ' '

def isInCalendar (days : Int) : Bool :=
  Date.toDays ⟨-262143, 1, 1⟩ ≤ days && days ≤ Date.toDays ⟨262142, 12, 31⟩

end Time

def Timestamp.ofChars? (cs : List Char) : Option Timestamp := do
  let (date, cs) ← Time.readDate cs
  match cs with
  | [] => none
  | mark :: cs =>
    if !Time.isDateMark mark then none
    else
      let (second, nanos, cs) ← Time.readClock cs
      let (offset, cs) ← Time.readOffset cs
      let seconds := date.toDays * 86400 + second - offset
      if Text.trimLeft cs = [] && offset.natAbs < 86400 && Time.isInCalendar date.toDays &&
          Time.isInCalendar (seconds / 86400) then some ⟨seconds, nanos⟩
      else none

def Timestamp.parse? (s : String) : Option Timestamp :=
  Timestamp.ofChars? s.toList

end FarmRegistry
