import ScriptStats.Yaml.Fault

/-!
# Timestamps

A date, or a date and a time of day with an optional offset.
-/

namespace ScriptStats.Yaml

structure ClockTime where
  hour : Nat
  minute : Nat
  second : Nat
  /-- The offset in minutes, if one is given. -/
  offset : Option Int
  deriving DecidableEq, Repr

structure Timestamp where
  year : Nat
  month : Nat
  day : Nat
  /-- Whether month and day are written with two digits each. -/
  full : Bool
  time : Option ClockTime
  deriving DecidableEq, Repr

namespace Timestamp

open Text

/-- Exactly `n` digits. -/
def exactly? (n : Nat) (text : List Char) : Option (Nat × List Char) :=
  let digits := text.take n
  if digits.length = n ∧ digits.all Char.isDigit then
    some (ofDigits 10 (digits.map fun c => c.toNat - 48), text.drop n)
  else none

/-- Two digits, or one; tells whether there are two. -/
def upToTwo? (text : List Char) : Option (Nat × Bool × List Char) :=
  match exactly? 2 text with
  | some (n, rest) => some (n, true, rest)
  | none => (exactly? 1 text).map fun (n, rest) => (n, false, rest)

def char? (c : Char) : List Char → Option (List Char)
  | d :: rest => if d = c then some rest else none
  | [] => none

def isGapChar (c : Char) : Bool := c = ' ' || c = '\t'

/-- What may stand between the date and the time. -/
def dateEnd? : List Char → Option (List Char)
  | [] => none
  | c :: rest =>
    if c = 'T' ∨ c = 't' then some rest
    else if isGapChar c then some (rest.dropWhile isGapChar)
    else none

def fraction (text : List Char) : List Char :=
  match text with
  | '.' :: rest => rest.dropWhile Char.isDigit
  | text => text

def offsetMinutes? (text : List Char) : Option Nat := do
  let (hours, _, rest) ← upToTwo? text
  if rest = [] then return hours * 60
  let (minutes, rest) ← exactly? 2 (← char? ':' rest)
  if rest = [] then return hours * 60 + minutes else none

/-- The offset, up to the end of the text. -/
def zone? (text : List Char) : Option (Option Int) :=
  if text = [] then some none
  else match text.dropWhile isGapChar with
    | ['Z'] => some (some 0)
    | '+' :: rest => (offsetMinutes? rest).map fun (n : Nat) => some (n : Int)
    | '-' :: rest => (offsetMinutes? rest).map fun (n : Nat) => some (-(n : Int))
    | _ => none

def time? (text : List Char) : Option ClockTime := do
  let (hour, _, rest) ← upToTwo? text
  let (minute, rest) ← exactly? 2 (← char? ':' rest)
  let (second, rest) ← exactly? 2 (← char? ':' rest)
  return { hour, minute, second, offset := ← zone? (fraction rest) }

def read? (text : List Char) : Option Timestamp := do
  let (year, rest) ← exactly? 4 text
  let (month, twoMonth, rest) ← upToTwo? (← char? '-' rest)
  let (day, twoDay, rest) ← upToTwo? (← char? '-' rest)
  let full := twoMonth && twoDay
  if rest = [] then return { year, month, day, full, time := none }
  return { year, month, day, full, time := some (← time? (← dateEnd? rest)) }

def isLeapYear (year : Nat) : Bool :=
  year % 4 = 0 && (year % 100 ≠ 0 || year % 400 = 0)

def daysIn (year month : Nat) : Nat :=
  if month = 2 then (if isLeapYear year then 29 else 28)
  else if month = 4 ∨ month = 6 ∨ month = 9 ∨ month = 11 then 30
  else 31

/-- What is wrong with a timestamp. An offset is looked at before all else. -/
def fault? (t : Timestamp) : Option DateFault :=
  let offset := t.time.bind ClockTime.offset
  let hour := (t.time.map ClockTime.hour).getD 0
  let minute := (t.time.map ClockTime.minute).getD 0
  let second := (t.time.map ClockTime.second).getD 0
  if (offset.getD 0).natAbs ≥ 1440 then some (.offset (offset.getD 0))
  else if t.year = 0 then some (.year t.year)
  else if t.month = 0 ∨ t.month > 12 then some .month
  else if t.day = 0 ∨ t.day > daysIn t.year t.month then some .day
  else if hour > 23 then some .hour
  else if minute > 59 then some .minute
  else if second > 59 then some .second
  else none

end Timestamp

end ScriptStats.Yaml
