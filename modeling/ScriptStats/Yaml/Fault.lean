import ScriptStats.Text.Number
import ScriptStats.Text.Quoted

/-!
# Why a YAML text cannot be loaded

Most texts that cannot be loaded are malformed. A few are well formed but hold a value that does
not exist, such as a day of a thirteenth month.
-/

namespace ScriptStats.Yaml

/-- The parts of a date that are out of range. The offset is given in minutes. -/
inductive DateFault where
  | year (year : Nat)
  | month
  | day
  | hour
  | minute
  | second
  | offset (minutes : Int)
  deriving DecidableEq, Repr

inductive Fault where
  | malformed
  /-- An escape by a number that is no code point. -/
  | codePoint (n : Nat)
  | notInt (base : Nat) (text : RawText)
  | tooManyDigits (digits : Nat)
  | notFloat (text : RawText)
  | floatRange
  /-- A number without a character. -/
  | emptyNumber
  | notBool (text : RawText)
  | notTimestamp
  /-- A collection where the text of a timestamp is looked for. -/
  | timestampOfCollection
  /-- Nodes that lie too deep inside of one another. -/
  | tooDeep
  | date (fault : DateFault)
  deriving DecidableEq, Repr

/-- A span of time, given in minutes, as whole days and the seconds that are left. -/
def spanText (minutes : Int) : String :=
  let days := minutes.fdiv 1440
  let seconds := minutes.fmod 1440 * 60
  let parts := (if days = 0 then [] else ["days=" ++ toString days])
    ++ (if seconds = 0 then [] else ["seconds=" ++ toString seconds])
  "datetime.timedelta(" ++ (if parts = [] then "0" else ", ".intercalate parts) ++ ")"

def DateFault.message : DateFault → String
  | year y => "year " ++ toString y ++ " is out of range"
  | month => "month must be in 1..12"
  | day => "day is out of range for month"
  | hour => "hour must be in 0..23"
  | minute => "minute must be in 0..59"
  | second => "second must be in 0..59"
  | offset minutes =>
    "offset must be a timedelta strictly between -timedelta(hours=24) and timedelta(hours=24), not "
      ++ spanText minutes ++ "."

def tooManyDigitsMessage (digits : Nat) : String :=
  "Exceeds the limit (" ++ toString Text.digitLimit
    ++ " digits) for integer string conversion: value has " ++ toString digits
    ++ " digits; use sys.set_int_max_str_digits() to increase the limit"

/-- How much of a quoted text is shown that is no whole number. -/
def shownLength : Nat := 200

/-- Numbers from here on are too great to be tried as code points. -/
def wordLimit : Nat := 0x80000000

def Fault.message : Fault → String
  | malformed => "not a YAML document"
  | codePoint n =>
    if n < wordLimit then "chr() arg not in range(0x110000)"
    else "Python int too large to convert to C int"
  | notInt base text =>
    "invalid literal for int() with base " ++ toString base ++ ": "
      ++ Text.quotedUpTo shownLength text
  | tooManyDigits digits => tooManyDigitsMessage digits
  | notFloat text => "could not convert string to float: " ++ Text.quotedRaw text
  | floatRange => "int too large to convert to float"
  | emptyNumber => "string index out of range"
  | notBool text => Text.quotedRaw text
  | notTimestamp => "'NoneType' object has no attribute 'groupdict'"
  | timestampOfCollection => "expected string or bytes-like object, got 'list'"
  | tooDeep => "maximum recursion depth exceeded"
  | date fault => fault.message

end ScriptStats.Yaml
