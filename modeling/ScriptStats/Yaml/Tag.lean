import ScriptStats.Text.Lines
import ScriptStats.Yaml.Timestamp

/-!
# Tags of YAML

The tag of a node tells its type. A plain scalar without a tag gets the one whose form it has.
-/

namespace ScriptStats.Yaml

inductive Tag where
  | null
  | bool
  | int
  | float
  | binary
  | timestamp
  | orderedMap
  | pairs
  | set
  | string
  | sequence
  | mapping
  /-- The key that merges another mapping into its own. -/
  | merge
  /-- The key of the value that stands for a whole mapping. -/
  | value
  | unknown
  deriving DecidableEq, Repr

namespace Tag

def repository : String := "tag:yaml.org,2002:"

def names : List (String × Tag) :=
  [("null", null), ("bool", bool), ("int", int), ("float", float), ("binary", binary),
   ("timestamp", timestamp), ("omap", orderedMap), ("pairs", pairs), ("set", set),
   ("str", string), ("seq", sequence), ("map", mapping), ("merge", merge), ("value", value)]

def ofName (name : String) : Tag :=
  ((names.map fun (n, tag) => (repository ++ n, tag)).lookup name).getD unknown

/-! ## Forms of plain scalars -/

def boolWords : List String :=
  ["yes", "Yes", "YES", "no", "No", "NO", "true", "True", "TRUE", "false", "False", "FALSE",
   "on", "On", "ON", "off", "Off", "OFF"]

def nullWords : List String := ["~", "null", "Null", "NULL"]

def isDigitOr (c : Char) : Bool := c.isDigit || c = '_'

def dropSign (text : List Char) : List Char :=
  (Text.sign text).2

/-- A number below sixty of one or two digits. -/
def isSixtieth : List Char → Bool
  | [d] => d.isDigit
  | [t, d] => '0' ≤ t && t ≤ '5' && d.isDigit
  | _ => false

/-- A whole number followed by at least one part below sixty, with colons between them. -/
def isSixtiethRow (isFirst : Char → Bool) (text : List Char) : Bool :=
  match Text.pieces (· = ':') text with
  | (d :: rest) :: part :: parts =>
    isFirst d && rest.all isDigitOr && (part :: parts).all isSixtieth
  | _ => false

def isNonZero (c : Char) : Bool := c.isDigit && c ≠ '0'

def isIntForm (text : List Char) : Bool :=
  match dropSign text with
  | [] => false
  | ['0'] => true
  | '0' :: 'b' :: d :: rest => (d :: rest).all fun c => c = '0' || c = '1' || c = '_'
  | '0' :: 'x' :: d :: rest => (d :: rest).all fun c => (Text.hexValue? c).isSome || c = '_'
  | '0' :: rest => rest.all fun c => ('0' ≤ c && c ≤ '7') || c = '_'
  | d :: rest => (isNonZero d && rest.all isDigitOr) || isSixtiethRow isNonZero (d :: rest)

/-- Nothing, or a power of ten with a sign. -/
def isPowerForm : List Char → Bool
  | [] => true
  | e :: sign :: d :: rest =>
    (e = 'e' || e = 'E') && (sign = '+' || sign = '-') && (d :: rest).all Char.isDigit
  | _ => false

/-- Digits, a point and digits again, with a power of ten or without. -/
def isPointForm (text : List Char) : Bool :=
  match text.takeWhile isDigitOr, text.dropWhile isDigitOr with
  | d :: _, '.' :: rest => d.isDigit && isPowerForm (rest.dropWhile isDigitOr)
  | _, _ => false

/-- A point with digits after it only. -/
def isFractionForm : List Char → Bool
  | '.' :: d :: rest => d.isDigit && isPowerForm (rest.dropWhile isDigitOr)
  | _ => false

def isSixtiethPointForm (text : List Char) : Bool :=
  match text.dropWhile (· ≠ '.') with
  | '.' :: rest => isSixtiethRow Char.isDigit (text.takeWhile (· ≠ '.')) && rest.all isDigitOr
  | _ => false

def infinityWords : List String := [".inf", ".Inf", ".INF"]

def nanWords : List String := [".nan", ".NaN", ".NAN"]

def isFloatForm (text : List Char) : Bool :=
  let unsigned := dropSign text
  isPointForm unsigned || isFractionForm text || isSixtiethPointForm unsigned
    || infinityWords.contains (String.ofList unsigned) || nanWords.contains (String.ofList text)

/-- A date has to be full unless it has a time. -/
def isTimestampForm (text : List Char) : Bool :=
  match Timestamp.read? text with
  | some t => t.full || t.time.isSome
  | none => false

/-- Forms do not look at one line break at the end. -/
def dropFinalBreak (text : List Char) : List Char :=
  if text.getLast? = some '\n' then text.dropLast else text

/-- The tag of a plain scalar. -/
def ofPlain (text : List Char) : Tag :=
  if text = [] then null
  else
    let text := dropFinalBreak text
    let word := String.ofList text
    if boolWords.contains word then bool
    else if isFloatForm text then float
    else if isIntForm text then int
    else if word = "<<" then merge
    else if nullWords.contains word then null
    else if isTimestampForm text then timestamp
    else if word = "=" then value
    else if word = "!" ∨ word = "&" ∨ word = "*" then unknown
    else string

end Tag

end ScriptStats.Yaml
