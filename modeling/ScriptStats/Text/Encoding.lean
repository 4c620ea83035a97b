import ScriptStats.Text.Digit
import ScriptStats.Text.Utf8

/-!
# Encodings

A text that begins with two characters of ASCII tells its encoding by where its first bytes are
zero. Halves of surrogate pairs are let through.
-/

namespace ScriptStats.Text

inductive Encoding where
  | utf8
  | utf16 (bigEndian : Bool)
  | utf32 (bigEndian : Bool)
  deriving DecidableEq, Repr

namespace Encoding

def ofStart : Bytes → Encoding
  | a :: b :: c :: d :: _ =>
    if a = 0 then (if b = 0 then utf32 true else utf16 true)
    else if b = 0 then (if c = 0 && d = 0 then utf32 false else utf16 false)
    else utf8
  | [a, b] => if a = 0 then utf16 true else if b = 0 then utf16 false else utf8
  | _ => utf8

/-- The number that bytes write. -/
def wordOf (bigEndian : Bool) (bytes : List UInt8) : Nat :=
  ofDigits 256 ((if bigEndian then bytes else bytes.reverse).map UInt8.toNat)

/-- Numbers of two bytes, with nothing left over. -/
def words16? (bigEndian : Bool) : Bytes → Option (List Nat)
  | [] => some []
  | a :: b :: rest => (words16? bigEndian rest).map (wordOf bigEndian [a, b] :: ·)
  | _ => none

/-- Numbers of four bytes, with nothing left over. -/
def words32? (bigEndian : Bool) : Bytes → Option (List Nat)
  | [] => some []
  | a :: b :: c :: d :: rest =>
    (words32? bigEndian rest).map (wordOf bigEndian [a, b, c, d] :: ·)
  | _ => none

/-- Joins the two halves of every surrogate pair. -/
def joinPairs : List Nat → RawText
  | high :: low :: rest =>
    match CodePoint.ofPair? high low with
    | some c => c :: joinPairs rest
    | none => .ofNumber high :: joinPairs (low :: rest)
  | [n] => [.ofNumber n]
  | [] => []

/-- The text that bytes write, if they do. -/
def decode? (encoding : Encoding) (bytes : Bytes) : Option RawText :=
  match encoding with
  | utf8 => (Utf8.decode bytes).toOption.map RawText.ofChars
  | utf16 bigEndian => (words16? bigEndian bytes).map joinPairs
  | utf32 bigEndian => do
    let words ← words32? bigEndian bytes
    if words.all (· < 0x110000) then some (words.map CodePoint.ofNumber) else none

end Encoding

end ScriptStats.Text
