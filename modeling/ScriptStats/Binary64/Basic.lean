/-!
# Binary floating point

Numbers of 64 bits as exact dyadic fractions. Every operation is exact rational arithmetic
followed by one rounding, to nearest with ties to even.
-/

namespace ScriptStats

/-- A finite number is `mantissa * 2 ^ exponent`, with a mantissa below `2 ^ 53` and an exponent
from `-1074` to `971`. Zero keeps its sign. -/
inductive Binary64 where
  | nan
  | infinite (negative : Bool)
  | finite (negative : Bool) (mantissa : Nat) (exponent : Int)
  deriving DecidableEq, Repr

namespace Binary64

def twoTo (n : Nat) : Nat := Nat.pow 2 n

def tenTo (n : Nat) : Nat := Nat.pow 10 n

/-- The greatest mantissas have 53 bits; this is the first of them alone. -/
def leadingBit : Nat := 0x10000000000000

def minExponent : Int := -1074

def maxExponent : Int := 971

def zero (negative : Bool) : Binary64 :=
  finite negative 0 minExponent

/-- The quotient rounded to nearest, ties to even. -/
def roundDiv (num den : Nat) : Nat :=
  let q := num / den
  let r := num % den
  if 2 * r > den ∨ (2 * r = den ∧ q % 2 = 1) then q + 1 else q

/-- `num / den / 2 ^ exponent`, rounded. -/
def scaled (num den : Nat) (exponent : Int) : Nat :=
  if exponent < 0 then roundDiv (num * twoTo exponent.natAbs) den
  else roundDiv num (den * twoTo exponent.toNat)

/-- The exponent under which `num / den` has 53 bits, but not below the least one. -/
def exponentFor (num den : Nat) : Int :=
  let guess : Int := (Nat.log2 num : Int) - Nat.log2 den - 52
  let wide : Bool :=
    if guess < 0 then decide (num * twoTo guess.natAbs ≥ den * leadingBit)
    else decide (num ≥ den * twoTo guess.toNat * leadingBit)
  max minExponent (if wide then guess else guess - 1)

/-- The number nearest to `num / den`. -/
def ofRatio (negative : Bool) (num den : Nat) : Binary64 :=
  if num = 0 then zero negative
  else
    let exponent := exponentFor num den
    let mantissa := scaled num den exponent
    let (mantissa, exponent) :=
      if mantissa = 2 * leadingBit then (leadingBit, exponent + 1) else (mantissa, exponent)
    if exponent > maxExponent then infinite negative else finite negative mantissa exponent

/-- The number nearest to `mantissa * 2 ^ exponent`. -/
def ofDyadic (negative : Bool) (mantissa : Nat) (exponent : Int) : Binary64 :=
  if exponent < 0 then ofRatio negative mantissa (twoTo exponent.natAbs)
  else ofRatio negative (mantissa * twoTo exponent.toNat) 1

def decimalLength (n : Nat) : Nat :=
  (Nat.toDigits 10 n).length

/-- The number nearest to `digits * 10 ^ exponent`. Far outside of the range the answer needs no
power of ten. -/
def ofDecimal (negative : Bool) (digits : Nat) (exponent : Int) : Binary64 :=
  let magnitude : Int := decimalLength digits + exponent
  if digits = 0 ∨ magnitude < -400 then zero negative
  else if magnitude > 400 then infinite negative
  else if exponent < 0 then ofRatio negative digits (tenTo exponent.natAbs)
  else ofRatio negative (digits * tenTo exponent.toNat) 1

def ofNat (n : Nat) : Binary64 :=
  ofRatio false n 1

def neg : Binary64 → Binary64
  | nan => nan
  | infinite s => infinite !s
  | finite s m e => finite (!s) m e

def mul : Binary64 → Binary64 → Binary64
  | nan, _ => nan
  | _, nan => nan
  | infinite s, infinite t => infinite (s != t)
  | infinite s, finite t m _ => if m = 0 then nan else infinite (s != t)
  | finite s m _, infinite t => if m = 0 then nan else infinite (s != t)
  | finite s m e, finite t n f => ofDyadic (s != t) (m * n) (e + f)

/-- The signed mantissa under the exponent `target`, which is not above `e`. -/
def aligned (s : Bool) (m : Nat) (e target : Int) : Int :=
  let n : Int := m * twoTo (e - target).toNat
  if s then -n else n

def add : Binary64 → Binary64 → Binary64
  | nan, _ => nan
  | _, nan => nan
  | infinite s, infinite t => if s = t then infinite s else nan
  | infinite s, finite .. => infinite s
  | finite .., infinite t => infinite t
  | finite s m e, finite t n f =>
    let target := min e f
    let sum := aligned s m e target + aligned t n f target
    if sum = 0 then zero (s && t) else ofDyadic (sum < 0) sum.natAbs target

/-- The integer that the number is, if it is one. -/
def toInt? : Binary64 → Option Int
  | finite s m e =>
    let magnitude? : Option Nat :=
      if e < 0 then if m % twoTo e.natAbs = 0 then some (m / twoTo e.natAbs) else none
      else some (m * twoTo e.toNat)
    magnitude?.map fun n => if s then -n else n
  | _ => none

end Binary64

end ScriptStats
