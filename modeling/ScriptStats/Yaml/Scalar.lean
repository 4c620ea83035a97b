import ScriptStats.Base64
import ScriptStats.Text.Case
import ScriptStats.Text.Lines
import ScriptStats.Yaml.Tag

/-!
# The values of scalars

Each tag has its way to read the text of a scalar.
-/

namespace ScriptStats.Yaml

inductive Scalar where
  | null
  | bool (b : Bool)
  | int (n : Int)
  | float (x : Binary64)
  | text (s : RawText)
  | bytes (bytes : Bytes)
  | timestamp
  deriving DecidableEq, Repr

namespace Scalar

def readInt (base : Nat) (text : RawText) : Except Fault Int :=
  (Text.readInt base text.chars).mapError fun
    | .literal => .notInt base text
    | .tooManyDigits n => .tooManyDigits n

def applySign (negative : Bool) (n : Int) : Int :=
  if negative then -n else n

/-- Takes a sign from the front; tells whether it is a minus. -/
def sign : RawText → Bool × RawText
  | .char '-' :: rest => (true, rest)
  | .char '+' :: rest => (false, rest)
  | digits => (false, digits)

def dropUnderscores (text : RawText) : RawText :=
  text.filter (· ≠ .char '_')

def hasColon (text : RawText) : Bool :=
  text.contains (.char ':')

/-- The parts between the colons. -/
def parts (text : RawText) : List RawText :=
  Text.pieces (· = CodePoint.char ':') text

/-- Whole numbers in base 2, 16, 8, 60 or 10. -/
def intOf (text : RawText) : Except Fault Int := do
  let text := dropUnderscores text
  if text = [] then throw .emptyNumber
  let (negative, digits) := sign text
  let n ← match digits with
    | [] => throw .emptyNumber
    | [.char '0'] => pure 0
    | .char '0' :: .char 'b' :: rest => readInt 2 rest
    | .char '0' :: .char 'x' :: rest => readInt 16 rest
    | .char '0' :: rest => readInt 8 (.char '0' :: rest)
    | digits =>
      if hasColon digits then do
        let parts ← (parts digits).mapM (readInt 10)
        pure (parts.foldl (fun n part => n * 60 + part) 0)
      else readInt 10 digits
  return applySign negative n

def readFloat (text : RawText) : Except Fault Binary64 :=
  match Text.readFloat? text.chars with
  | some x => .ok x
  | none => .error (.notFloat text)

/-- Adds up parts of base 60, the last one first. -/
def sixtieths (total : Binary64) (base : Nat) : List Binary64 → Except Fault Binary64
  | [] => .ok total
  | part :: parts =>
    match Binary64.ofNat base with
    | .finite s m e => sixtieths (total.add (part.mul (.finite s m e))) (base * 60) parts
    | _ => .error .floatRange

def floatOf (text : RawText) : Except Fault Binary64 := do
  let text := Text.lower (dropUnderscores text)
  if text = [] then throw .emptyNumber
  let (negative, digits) := sign text
  let x ←
    if digits = RawText.ofString ".inf" then pure (.infinite false)
    else if digits = RawText.ofString ".nan" then pure .nan
    else if hasColon digits then do
      let parts ← (parts digits).mapM readFloat
      sixtieths (Binary64.zero false) 1 parts.reverse
    else readFloat digits
  return if negative then x.neg else x

def boolOf (text : RawText) : Except Fault Bool :=
  let word := Text.lower text
  if word ∈ ["yes", "true", "on"].map RawText.ofString then .ok true
  else if word ∈ ["no", "false", "off"].map RawText.ofString then .ok false
  else .error (.notBool word)

def bytesOf (text : List Char) : Except Fault Bytes :=
  if text.all fun c => c.toNat < 128 then
    match Base64.decode? text with
    | some found => .ok found
    | none => .error .malformed
  else .error .malformed

def checkTimestamp (text : List Char) : Except Fault Unit :=
  match Timestamp.read? (Tag.dropFinalBreak text) with
  | none => .error .notTimestamp
  | some t =>
    match t.fault? with
    | some fault => .error (.date fault)
    | none => .ok ()

/-- Reads the text of a scalar as the tag asks for. -/
def ofText (tag : Tag) (text : RawText) : Except Fault Scalar :=
  match tag with
  | .null => .ok .null
  | .bool => (boolOf text).map bool
  | .int => (intOf text).map int
  | .float => (floatOf text).map float
  | .string => .ok (.text text)
  | .binary => (bytesOf text.chars).map bytes
  | .timestamp => (checkTimestamp text.chars).map fun () => timestamp
  | _ => .error .malformed

end Scalar

end ScriptStats.Yaml
