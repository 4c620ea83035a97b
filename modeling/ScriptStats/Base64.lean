import ScriptStats.Text.Utf8

/-!
# Base 64

Reading bytes from text. Characters without a meaning are skipped.
-/

namespace ScriptStats.Base64

def value? (c : Char) : Option Nat :=
  if 'A' ≤ c ∧ c ≤ 'Z' then some (c.toNat - 65)
  else if 'a' ≤ c ∧ c ≤ 'z' then some (c.toNat - 71)
  else if '0' ≤ c ∧ c ≤ '9' then some (c.toNat + 4)
  else if c = '+' then some 62
  else if c = '/' then some 63
  else none

/-- Reads on inside a group of four: how many of them are read, the bits left over from the last
one and the number of equals signs since then. The text may end where a group does. -/
def decodeFrom (read left pads : Nat) : List Char → Option Bytes
  | [] => if read = 0 then some [] else none
  | c :: text =>
    if c = '=' then
      if read ≥ 2 then
        if read + pads + 1 ≥ 4 then some [] else decodeFrom read left (pads + 1) text
      else decodeFrom read left pads text
    else match value? c with
      | none => decodeFrom read left pads text
      | some v =>
        match read with
        | 0 => decodeFrom 1 v 0 text
        | 1 => (decodeFrom 2 (v % 16) 0 text).map (UInt8.ofNat (left * 4 + v / 16) :: ·)
        | 2 => (decodeFrom 3 (v % 4) 0 text).map (UInt8.ofNat (left * 16 + v / 4) :: ·)
        | _ => (decodeFrom 0 0 0 text).map (UInt8.ofNat (left * 64 + v) :: ·)

def decode? (text : List Char) : Option Bytes :=
  decodeFrom 0 0 0 text

end ScriptStats.Base64
