import ScriptStats.Binary64.Basic

/-!
# Shortest decimal text

A finite number is written with the fewest digits that read back as the same number, and of those
with the nearest; of two that are equally near, the even one is taken. From `10 ^ -4` up to
`10 ^ 16` the digits stand around a point, elsewhere before a power of ten.
-/

namespace ScriptStats.Binary64

/-- A positive number as a fraction. -/
def ratio (mantissa : Nat) (exponent : Int) : Nat × Nat :=
  if exponent < 0 then (mantissa, twoTo exponent.natAbs)
  else (mantissa * twoTo exponent.toNat, 1)

/-- The exponent `t` with `10 ^ t ≤ num / den < 10 ^ (t + 1)`. -/
def decimalExponent (num den : Nat) : Int :=
  let guess : Int := (decimalLength num : Int) - decimalLength den
  let reached : Bool :=
    if guess < 0 then decide (num * tenTo guess.natAbs ≥ den)
    else decide (num ≥ den * tenTo guess.toNat)
  if reached then guess else guess - 1

/-- `num / den` on the grid of step `10 ^ exponent`: the point below it and what is left over,
in parts of the returned denominator. -/
def gridPoint (num den : Nat) (exponent : Int) : Nat × Nat × Nat :=
  let (n, d) :=
    if exponent < 0 then (num * tenTo exponent.natAbs, den)
    else (num, den * tenTo exponent.toNat)
  (n / d, n % d, d)

/-- The digits of the nearest grid point that reads back, if one of the two neighbours does. -/
def readsBack? (mantissa : Nat) (exponent : Int) (num den : Nat) (grid : Int) : Option Nat :=
  let (below, left, whole) := gridPoint num den grid
  let good (digits : Nat) : Bool := ofDecimal false digits grid = finite false mantissa exponent
  match good below, good (below + 1) with
  | true, true =>
    some (if 2 * left > whole ∨ (2 * left = whole ∧ below % 2 = 1) then below + 1 else below)
  | true, false => some below
  | false, true => some (below + 1)
  | false, false => none

/-- Tries `count` more digits, one finer grid after the other. -/
def shortestFrom (mantissa : Nat) (exponent : Int) (num den : Nat) : Nat → Int → Nat × Int
  | 0, grid => ((gridPoint num den grid).1, grid)
  | count + 1, grid =>
    match readsBack? mantissa exponent num den grid with
    | some digits => (digits, grid)
    | none => shortestFrom mantissa exponent num den count (grid - 1)

/-- The digits and the power of ten of a positive number. -/
def shortest (mantissa : Nat) (exponent : Int) : Nat × Int :=
  let (num, den) := ratio mantissa exponent
  shortestFrom mantissa exponent num den 17 (decimalExponent num den)

/-! ## Writing -/

def dropTrailingZeros (digits : List Char) : List Char :=
  (digits.reverse.dropWhile (· = '0')).reverse

/-- Digits around a point; `point` digits stand before it. -/
def positional (digits : List Char) (point : Int) : List Char :=
  if point ≤ 0 then
    '0' :: '.' :: (List.replicate point.natAbs '0' ++ digits)
  else
    let whole := digits.take point.toNat
    let missing := List.replicate (point.toNat - digits.length) '0'
    let rest := digits.drop point.toNat
    whole ++ missing ++ '.' :: (if rest = [] then ['0'] else rest)

/-- One digit before the point, and a signed power of ten of at least two digits. -/
def scientific (digits : List Char) (power : Int) : List Char :=
  let lead :=
    match digits with
    | [] => []
    | [d] => [d]
    | d :: rest => d :: '.' :: rest
  let size := Nat.toDigits 10 power.natAbs
  lead ++ 'e' :: (if power < 0 then '-' else '+') ::
    (if size.length < 2 then '0' :: size else size)

def magnitudeText (mantissa : Nat) (exponent : Int) : List Char :=
  if mantissa = 0 then ['0', '.', '0']
  else
    let (digits, grid) := shortest mantissa exponent
    let all := Nat.toDigits 10 digits
    let power : Int := grid + all.length - 1
    let digits := dropTrailingZeros all
    if -4 ≤ power ∧ power < 16 then positional digits (power + 1) else scientific digits power

/-- How the values that are no finite numbers are spelled. -/
structure Spelling where
  nan : String
  infinity : String

def text (spelling : Spelling) : Binary64 → String
  | nan => spelling.nan
  | infinite s => if s then "-" ++ spelling.infinity else spelling.infinity
  | finite s m e =>
    String.ofList (if s then '-' :: magnitudeText m e else magnitudeText m e)

end ScriptStats.Binary64
