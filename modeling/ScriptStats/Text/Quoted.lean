import ScriptStats.Text.CodePoint
import ScriptStats.Text.Printable

/-!
# Quoted text

How a text is shown inside a message: between single quotes, or between double quotes if it holds
a single quote and no double one. What is not printable is written by its number.
-/

namespace ScriptStats.Text

/-- The last `width` hexadecimal digits of `n`, in small letters. -/
def hexDigits : Nat → Nat → List Char
  | 0, _ => []
  | width + 1, n => hexDigits width (n / 16) ++ [Nat.digitChar (n % 16)]

/-- A code point written by its number. -/
def escaped (n : Nat) : List Char :=
  if n ≤ 0xFF then '\\' :: 'x' :: hexDigits 2 n
  else if n ≤ 0xFFFF then '\\' :: 'u' :: hexDigits 4 n
  else '\\' :: 'U' :: hexDigits 8 n

def quotedChar (quote c : Char) : List Char :=
  if c = quote ∨ c = '\\' then ['\\', c]
  else if c = '\t' then ['\\', 't']
  else if c = '\n' then ['\\', 'n']
  else if c = '\r' then ['\\', 'r']
  else if isPrintable c then [c]
  else escaped c.toNat

def quotedPoint (quote : Char) : CodePoint → List Char
  | .char c => quotedChar quote c
  | .half n => escaped (CodePoint.half n).number

def quoteFor (text : RawText) : Char :=
  if text.contains (.char '\'') && !text.contains (.char '"') then '"' else '\''

def quotedChars (text : RawText) : List Char :=
  let quote := quoteFor text
  quote :: text.flatMap (quotedPoint quote) ++ [quote]

def quotedRaw (text : RawText) : String :=
  String.ofList (quotedChars text)

def quoted (text : String) : String :=
  quotedRaw text

/-- The first `n` characters of a quoted text. -/
def quotedUpTo (n : Nat) (text : RawText) : String :=
  String.ofList ((quotedChars text).take n)

end ScriptStats.Text
