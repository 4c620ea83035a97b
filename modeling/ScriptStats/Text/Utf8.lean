import ScriptStats.Text.Quoted

/-!
# UTF-8

Reading and writing UTF-8. Reading is strict: the first sequence that is not well formed ends it
with a `Fault` that tells where the sequence starts, how long its sound part is and what is wrong.
-/

namespace ScriptStats

abbrev Bytes := List UInt8

namespace Text.Utf8

inductive Reason where
  | startByte
  | continuation
  | truncated
  deriving DecidableEq, Repr

/-- A sequence that is not well formed: its first byte and the extent of its sound part. -/
structure Fault where
  byte : UInt8
  position : Nat
  length : Nat
  reason : Reason
  deriving DecidableEq, Repr

/-- A sequence under way: the bytes still due, the bounds of the next one and the value so far. -/
structure Pending where
  first : UInt8
  start : Nat
  taken : Nat
  due : Nat
  low : UInt8
  high : UInt8
  value : Nat
  deriving DecidableEq, Repr

/-- What a byte above `0x7F` starts at `position`, if it can start anything. -/
def Pending.ofLead? (b : UInt8) (position : Nat) : Option Pending :=
  let lead (due : Nat) (low high : UInt8) (base : UInt8) : Option Pending :=
    some ⟨b, position, 1, due, low, high, (b - base).toNat⟩
  if 0xC2 ≤ b ∧ b ≤ 0xDF then lead 1 0x80 0xBF 0xC0
  else if b = 0xE0 then lead 2 0xA0 0xBF 0xE0
  else if b = 0xED then lead 2 0x80 0x9F 0xE0
  else if 0xE1 ≤ b ∧ b ≤ 0xEF then lead 2 0x80 0xBF 0xE0
  else if b = 0xF0 then lead 3 0x90 0xBF 0xF0
  else if 0xF1 ≤ b ∧ b ≤ 0xF3 then lead 3 0x80 0xBF 0xF0
  else if b = 0xF4 then lead 3 0x80 0x8F 0xF0
  else none

def Pending.accepts (p : Pending) (b : UInt8) : Bool :=
  p.low ≤ b && b ≤ p.high

def Pending.push (p : Pending) (b : UInt8) : Pending :=
  { p with taken := p.taken + 1, due := p.due - 1, low := 0x80, high := 0xBF,
           value := p.value * 64 + (b - 0x80).toNat }

def Pending.fault (p : Pending) (reason : Reason) : Fault :=
  ⟨p.first, p.start, p.taken, reason⟩

/-- Reads on at `position`, between characters or inside one. -/
def decodeFrom (position : Nat) : Option Pending → Bytes → Except Fault (List Char)
  | none, [] => .ok []
  | some p, [] => .error (p.fault .truncated)
  | none, b :: rest =>
    if b < 0x80 then do
      let text ← decodeFrom (position + 1) none rest
      return Char.ofNat b.toNat :: text
    else match Pending.ofLead? b position with
      | some p => decodeFrom (position + 1) (some p) rest
      | none => .error ⟨b, position, 1, .startByte⟩
  | some p, b :: rest =>
    if p.accepts b then
      if p.due = 1 then do
        let text ← decodeFrom (position + 1) none rest
        return Char.ofNat (p.push b).value :: text
      else decodeFrom (position + 1) (some (p.push b)) rest
    else .error (p.fault .continuation)

def decode (bytes : Bytes) : Except Fault (List Char) :=
  decodeFrom 0 none bytes

def encode (text : List Char) : Bytes :=
  text.flatMap String.utf8EncodeChar

/-- Halves of surrogate pairs in a row, which UTF-8 cannot write. -/
structure Unencodable where
  first : CodePoint
  position : Nat
  length : Nat
  deriving DecidableEq, Repr

/-- Writes a raw text, if it is a text. -/
def encodeRaw (text : RawText) : Except Unencodable Bytes :=
  match text.dropWhile (!·.isHalf) with
  | [] => .ok (encode text.chars)
  | first :: rest =>
    .error ⟨first, (text.takeWhile (!·.isHalf)).length, (rest.takeWhile (·.isHalf)).length + 1⟩

/-- What stands for a sequence that is not well formed. -/
def replacement : Char := '\uFFFD'

/-- Reads with `replacement` for the sound part of every sequence that is not well formed. -/
def decodeLossyFrom : Option Pending → Bytes → List Char
  | none, [] => []
  | some _, [] => [replacement]
  | none, b :: rest =>
    if b < 0x80 then Char.ofNat b.toNat :: decodeLossyFrom none rest
    else match Pending.ofLead? b 0 with
      | some p => decodeLossyFrom (some p) rest
      | none => replacement :: decodeLossyFrom none rest
  | some p, b :: rest =>
    if p.accepts b then
      if p.due = 1 then Char.ofNat (p.push b).value :: decodeLossyFrom none rest
      else decodeLossyFrom (some (p.push b)) rest
    else if b < 0x80 then replacement :: Char.ofNat b.toNat :: decodeLossyFrom none rest
    else match Pending.ofLead? b 0 with
      | some q => replacement :: decodeLossyFrom (some q) rest
      | none => replacement :: replacement :: decodeLossyFrom none rest

def decodeLossy (bytes : Bytes) : List Char :=
  decodeLossyFrom none bytes

/-! ## Wording -/

def Reason.message : Reason → String
  | .startByte => "invalid start byte"
  | .continuation => "invalid continuation byte"
  | .truncated => "unexpected end of data"

/-- One byte at fault is shown, several are given by their first and last offset. -/
def Fault.message (f : Fault) : String :=
  let hex (n : Nat) : Char := Nat.digitChar n
  let place :=
    if f.length = 1 then
      "byte 0x" ++ String.ofList [hex (f.byte.toNat / 16), hex (f.byte.toNat % 16)]
        ++ " in position " ++ toString f.position
    else
      "bytes in position " ++ toString f.position ++ "-"
        ++ toString (f.position + f.length - 1)
  "'utf-8' codec can't decode " ++ place ++ ": " ++ f.reason.message

def Unencodable.message (u : Unencodable) : String :=
  let place :=
    if u.length = 1 then
      "character '" ++ String.ofList (escaped u.first.number) ++ "' in position "
        ++ toString u.position
    else
      "characters in position " ++ toString u.position ++ "-"
        ++ toString (u.position + u.length - 1)
  "'utf-8' codec can't encode " ++ place ++ ": surrogates not allowed"

end Text.Utf8

end ScriptStats
