/-!
# Raw text

Escapes by number can write halves of surrogate pairs, which are no characters. A raw text is a row
of code points, of which some may be such halves; a raw text without them is a text.
-/

namespace ScriptStats

/-- How many code points are halves of surrogate pairs. -/
abbrev surrogateCount : Nat := 0x800

inductive CodePoint where
  | char (c : Char)
  /-- Half of a surrogate pair, told by its place among all halves. -/
  | half (n : Fin surrogateCount)
  deriving DecidableEq, Repr

namespace CodePoint

def firstSurrogate : Nat := 0xD800

def number : CodePoint → Nat
  | char c => c.toNat
  | half n => firstSurrogate + n.val

theorem number_char_ne (c : Char) (n : Fin surrogateCount) :
    (char c).number ≠ (half n).number := by
  have hc : c.toNat < 0xD800 ∨ 0xDFFF < c.toNat := by
    rcases c.valid with h | h
    · exact .inl h
    · exact .inr h.1
  have hn : n.val < 0x800 := n.isLt
  simp only [number, firstSurrogate]
  omega

/-- The code point of a number below `0x110000`. -/
def ofNumber (n : Nat) : CodePoint :=
  if h : firstSurrogate ≤ n ∧ n < firstSurrogate + surrogateCount then
    half ⟨n - firstSurrogate, by omega⟩
  else char (Char.ofNat n)

/-- The code point beyond `0xFFFF` that two halves make up. -/
def ofPair? (high low : Nat) : Option CodePoint :=
  if 0xD800 ≤ high ∧ high ≤ 0xDBFF ∧ 0xDC00 ≤ low ∧ low ≤ 0xDFFF then
    some (ofNumber (0x10000 + (high - 0xD800) * 0x400 + (low - 0xDC00)))
  else none

theorem number_injective {a b : CodePoint} (h : a.number = b.number) : a = b := by
  cases a with
  | char c =>
    cases b with
    | char d => exact congrArg char (Char.toNat_inj.1 h)
    | half n => exact absurd h (number_char_ne c n)
  | half n =>
    cases b with
    | char d => exact absurd h.symm (number_char_ne d n)
    | half m =>
      have h' : firstSurrogate + n.val = firstSurrogate + m.val := h
      exact congrArg half (Fin.ext (by omega))

/-- Code points are in the order of their numbers. -/
instance : Ord CodePoint where
  compare a b := compare a.number b.number

instance : Std.TransOrd CodePoint :=
  inferInstanceAs (Std.TransCmp (compareOn number))

instance : Std.LawfulEqOrd CodePoint where
  eq_of_compare h := number_injective (Std.LawfulEqOrd.eq_of_compare h)

def isHalf : CodePoint → Bool
  | char _ => false
  | half _ => true

/-- The character, with `standIn` for a half. -/
def toChar (standIn : Char) : CodePoint → Char
  | char c => c
  | half _ => standIn

end CodePoint

abbrev RawText := List CodePoint

namespace RawText

def ofChars (text : List Char) : RawText :=
  text.map .char

def ofString (s : String) : RawText :=
  ofChars s.toList

instance : Coe String RawText := ⟨ofString⟩

/-- Whether all code points are characters. -/
def isText (text : RawText) : Bool :=
  !text.any CodePoint.isHalf

/-- What stands for a half in a text that is only looked at for something else. -/
def replacement : Char := '\uFFFD'

/-- The characters, with `replacement` for every half. -/
def chars (text : RawText) : List Char :=
  text.map (CodePoint.toChar replacement)

def toString (text : RawText) : String :=
  String.ofList text.chars

def toString? (text : RawText) : Option String :=
  if text.isText then some text.toString else none

/-- A character of no class that does not occur in the text. It can stand for a half wherever only
the class of a character counts. -/
def standIn (text : RawText) : Char :=
  let candidates := (List.range (text.length + 1)).map fun n => Char.ofNat (0xF0000 + n)
  (candidates.find? fun c => !text.contains (.char c)).getD replacement

end RawText

end ScriptStats
