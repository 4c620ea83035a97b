import ScriptStats.Binary64.Basic
import ScriptStats.Text.Blank
import ScriptStats.Text.Digit

/-!
# Numbers in text

Reading whole and floating point numbers. Blanks around a number do not count, and decimal digits
of any script are digits.
-/

namespace ScriptStats.Text

inductive NumberFault where
  | literal
  | tooManyDigits (digits : Nat)
  deriving DecidableEq, Repr

/-- The most decimal digits that a whole number may be read from or written with. -/
def digitLimit : Nat := 4300

/-- Whether a whole number may be written out. -/
def isWritable (n : Int) : Bool :=
  n.natAbs < Binary64.tenTo digitLimit

/-! ## The plain form -/

/-- What ends a text that is no number. -/
def foreignMark : Char := '?'

/-- Writes blanks as spaces and digits of all scripts as ASCII digits, up to the first character
that has no place in a number. -/
def simplify : List Char → List Char
  | [] => []
  | c :: rest =>
    if c.toNat < 127 then c :: simplify rest
    else if isBlank c then ' ' :: simplify rest
    else match digitValue? c with
      | some d => Nat.digitChar d :: simplify rest
      | none => [foreignMark]

/-- The form in which a number is read. A text in ASCII stays as it is. -/
def plainForm (text : List Char) : List Char :=
  if text.all fun c => c.toNat < 128 then text else simplify text

/-- The blanks of the plain form. Separators of records and fields are none of them. -/
def isPlainBlank (c : Char) : Bool :=
  c = ' ' || ('\t' ≤ c && c ≤ '\r')

/-! ## Whole numbers -/

def digit? (base : Nat) (c : Char) : Option Nat :=
  (alphanumericValue? c).filter (· < base)

/-- The digits at the front, with single underscores between them, and what is behind. There is
none if it does not begin with a digit or if an underscore has no digit behind it. -/
def digitRow? (base : Nat) (afterDigit : Bool) : List Char → Option (List Nat × List Char)
  | [] => if afterDigit then some ([], []) else none
  | c :: rest =>
    if c = '_' then
      if afterDigit then digitRow? base false rest else none
    else match digit? base c with
      | some d => (digitRow? base true rest).map fun (digits, left) => (d :: digits, left)
      | none => if afterDigit then some ([], c :: rest) else none

/-- Takes a sign from the front; tells whether it is a minus. -/
def sign : List Char → Bool × List Char
  | '-' :: rest => (true, rest)
  | '+' :: rest => (false, rest)
  | text => (false, text)

/-- The letter that may stand behind a zero to tell a base. -/
def baseLetter? (base : Nat) : Option Char :=
  if base = 2 then some 'b' else if base = 8 then some 'o' else if base = 16 then some 'x' else none

/-- Drops the mark of a base, and one underscore behind it. -/
def dropBaseMark (base : Nat) (text : List Char) : List Char :=
  match text with
  | '0' :: letter :: rest =>
    if some letter.toLower = baseLetter? base then
      match rest with
      | '_' :: rest => rest
      | rest => rest
    else text
  | text => text

/-- Reads a whole number. Its digits are counted before it is known whether something else follows
them. -/
def readInt (base : Nat) (text : List Char) : Except NumberFault Int :=
  let (negative, unsigned) := sign ((plainForm text).dropWhile isPlainBlank)
  match digitRow? base false (dropBaseMark base unsigned) with
  | none => .error .literal
  | some (digits, left) =>
    if base = 10 ∧ digits.length > digitLimit then .error (.tooManyDigits digits.length)
    else if left.all isPlainBlank then
      let n : Int := ofDigits base digits
      .ok (if negative then -n else n)
    else .error .literal

/-! ## Floating point numbers -/

/-- The decimal digits at the front. -/
def decimals : List Char → List Nat × List Char
  | [] => ([], [])
  | c :: rest =>
    match digit? 10 c with
    | none => ([], c :: rest)
    | some d =>
      let (more, rest) := decimals rest
      (d :: more, rest)

/-- A power of ten up to the end of the text; nothing stands for one. -/
def power? : List Char → Option Int
  | [] => some 0
  | e :: rest =>
    if e = 'e' ∨ e = 'E' then
      let (negative, rest) := sign rest
      match decimals rest with
      | ([], _) => none
      | (digits, []) =>
        let n : Int := ofDigits 10 digits
        some (if negative then -n else n)
      | _ => none
    else none

def readDecimal? (negative : Bool) (text : List Char) : Option Binary64 := do
  let (whole, rest) := decimals text
  let (fraction, rest) := match rest with
    | '.' :: rest => decimals rest
    | rest => ([], rest)
  if whole = [] ∧ fraction = [] then none
  let power ← power? rest
  return Binary64.ofDecimal negative (ofDigits 10 (whole ++ fraction)) (power - fraction.length)

/-- Reads a floating point number; infinity and what is no number are written by name. -/
def readFloat? (text : List Char) : Option Binary64 :=
  let (negative, unsigned) := sign (trimBy isPlainBlank (plainForm text))
  let name := String.ofList (unsigned.map Char.toLower)
  if name = "inf" ∨ name = "infinity" then some (.infinite negative)
  else if name = "nan" then some .nan
  else readDecimal? negative unsigned

end ScriptStats.Text
