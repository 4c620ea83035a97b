import Mathlib.Algebra.Order.Field.Power
import Mathlib.Data.List.DropRight
import Mathlib.Data.Rat.Cast.Order
import ScriptStats.Binary64.Shortest
import ScriptStats.Proofs.Json.Numeral

/-!
# The decimal text of a floating point number

What is written of a finite number is a whole part and, behind it, a fraction or a power of ten or
both, so that nobody takes it for a whole number.
-/

namespace ScriptStats.Binary64

open Json (IsDigits IsWholePart isDigits_toDigits)

/-! ## The digits are not all zero -/

theorem twoTo_pos (n : Nat) : 0 < twoTo n :=
  Nat.pow_pos (by decide)

theorem le_scaled_iff (num den : Nat) (grid : Int) :
    (if grid < 0 then den ≤ num * tenTo grid.natAbs else den * tenTo grid.toNat ≤ num) ↔
      (den : ℚ) * 10 ^ grid ≤ num := by
  split
  next hneg =>
    obtain ⟨k, rfl⟩ : ∃ k : Nat, grid = -k := ⟨grid.natAbs, by omega⟩
    rw [Int.natAbs_neg, Int.natAbs_natCast, zpow_neg, zpow_natCast,
      mul_inv_le_iff₀ (by positivity)]
    exact_mod_cast Iff.rfl
  next hpos =>
    obtain ⟨k, rfl⟩ := Int.eq_ofNat_of_zero_le (not_lt.1 hpos)
    rw [Int.toNat_natCast, zpow_natCast]
    exact_mod_cast Iff.rfl

theorem tenTo_le {n : Nat} (hn : 0 < n) : tenTo (decimalLength n - 1) ≤ n := by
  by_cases hone : decimalLength n = 1
  · rw [hone]
    exact hn
  have hpos : 0 < decimalLength n := Nat.length_toDigits_pos
  have hlonger : ¬ decimalLength n ≤ decimalLength n - 1 := by omega
  exact not_lt.1 (mt (Nat.length_toDigits_le_iff (by decide) (by omega)).2 hlonger)

theorem lt_tenTo (n : Nat) : n < tenTo (decimalLength n) :=
  (Nat.length_toDigits_le_iff (by decide) Nat.length_toDigits_pos).1 le_rfl

/-- The lengths of two numbers tell their quotient up to one power of ten. -/
theorem guess_le {num : Nat} (hnum : 0 < num) (den : Nat) :
    (den : ℚ) * 10 ^ ((decimalLength num : Int) - decimalLength den - 1) ≤ num := by
  have hpos : 0 < decimalLength num := Nat.length_toDigits_pos
  have hexponent : (decimalLength num : Int) - decimalLength den - 1 =
      ((decimalLength num - 1 : Nat) : Int) - (decimalLength den : Nat) := by omega
  have hlow : (10 : ℚ) ^ (decimalLength num - 1) ≤ num := by exact_mod_cast tenTo_le hnum
  have hhigh : (den : ℚ) ≤ 10 ^ decimalLength den := by exact_mod_cast (lt_tenTo den).le
  rw [hexponent, zpow_sub₀ (by norm_num), zpow_natCast, zpow_natCast, ← mul_div_assoc,
    div_le_iff₀ (by positivity)]
  calc (den : ℚ) * 10 ^ (decimalLength num - 1)
      ≤ 10 ^ decimalLength den * num := by gcongr
    _ = num * 10 ^ decimalLength den := mul_comm _ _

theorem decimalExponent_le {num : Nat} (hnum : 0 < num) (den : Nat) :
    (den : ℚ) * 10 ^ decimalExponent num den ≤ num := by
  have hguess := le_scaled_iff num den ((decimalLength num : Int) - decimalLength den)
  have hlow := guess_le hnum den
  unfold decimalExponent
  dsimp only
  generalize (decimalLength num : Int) - decimalLength den = guess at hguess hlow ⊢
  by_cases hneg : guess < 0
  · simp only [if_pos hneg, decide_eq_true_eq] at hguess ⊢
    split
    next hreached => exact hguess.1 hreached
    next => exact hlow
  · simp only [if_neg hneg, decide_eq_true_eq] at hguess ⊢
    split
    next hreached => exact hguess.1 hreached
    next => exact hlow

theorem gridPoint_pos {num den : Nat} (hden : 0 < den) {grid : Int}
    (h : (den : ℚ) * 10 ^ grid ≤ num) : 0 < (gridPoint num den grid).1 := by
  have hscaled := (le_scaled_iff num den grid).2 h
  unfold gridPoint
  split at hscaled
  next hneg =>
    simp only [if_pos hneg]
    exact Nat.div_pos hscaled hden
  next hpos =>
    simp only [if_neg hpos]
    exact Nat.div_pos hscaled (Nat.mul_pos hden (Nat.pow_pos (by decide)))

theorem readsBack?_pos {mantissa : Nat} (hmantissa : 0 < mantissa) {exponent : Int}
    {num den : Nat} {grid : Int} {digits : Nat}
    (h : readsBack? mantissa exponent num den grid = some digits) : 0 < digits := by
  have hzero : ¬ ofDecimal false 0 grid = finite false mantissa exponent := by
    have hdecimal : ofDecimal false 0 grid = finite false 0 minExponent := by
      simp [ofDecimal, zero]
    rw [hdecimal, finite.injEq]
    rintro ⟨-, rfl, -⟩
    exact Nat.lt_irrefl 0 hmantissa
  unfold readsBack? at h
  generalize gridPoint num den grid = point at h
  obtain ⟨below, left, whole⟩ := point
  simp only at h
  have hbelow : decide (ofDecimal false below grid = finite false mantissa exponent) = true →
      0 < below := by
    intro hgood
    rcases Nat.eq_zero_or_pos below with rfl | hpos
    · exact absurd (of_decide_eq_true hgood) hzero
    · exact hpos
  split at h
  next hgood _ =>
    have hpos := hbelow hgood
    have hdigits := Option.some.inj h
    split at hdigits <;> omega
  next hgood _ => exact Option.some.inj h ▸ hbelow hgood
  next => exact Option.some.inj h ▸ Nat.succ_pos below
  next => cases h

theorem shortestFrom_pos {mantissa : Nat} (hmantissa : 0 < mantissa) {exponent : Int}
    {num den : Nat} (hden : 0 < den) {count : Nat} {grid : Int}
    (h : (den : ℚ) * 10 ^ grid ≤ num) :
    0 < (shortestFrom mantissa exponent num den count grid).1 := by
  induction count generalizing grid with
  | zero => exact gridPoint_pos hden h
  | succ count ih =>
    rw [shortestFrom]
    split
    next digits hfound => exact readsBack?_pos hmantissa hfound
    next =>
      refine ih (le_trans ?_ h)
      gcongr
      · norm_num
      · omega

theorem shortest_pos {mantissa : Nat} (hmantissa : 0 < mantissa) (exponent : Int) :
    0 < (shortest mantissa exponent).1 := by
  have hratio : 0 < (ratio mantissa exponent).1 ∧ 0 < (ratio mantissa exponent).2 := by
    unfold ratio
    split
    · exact ⟨hmantissa, twoTo_pos _⟩
    · exact ⟨Nat.mul_pos hmantissa (twoTo_pos _), Nat.one_pos⟩
  exact shortestFrom_pos hmantissa hratio.2 (decimalExponent_le hratio.1 _)

/-! ## What is written -/

/-- A power of ten as it is written, or nothing. -/
inductive IsPower : List Char → Prop where
  | none : IsPower []
  | signed {sign : Char} {digits : List Char} : sign = '-' ∨ sign = '+' → IsDigits digits →
      IsPower ('e' :: sign :: digits)

/-- What stands behind the whole part: a fraction or a power of ten or both. -/
inductive IsFractional : List Char → Prop where
  | point {digits power : List Char} : IsDigits digits → IsPower power →
      IsFractional ('.' :: (digits ++ power))
  | power {power : List Char} : power ≠ [] → IsPower power → IsFractional power

/-- A whole part and what makes it no whole number. -/
def IsDecimal (text : List Char) : Prop :=
  ∃ whole tail, text = whole ++ tail ∧ IsWholePart whole ∧ IsFractional tail

theorem isDigits_replicate_append (n : Nat) {text : List Char} (h : IsDigits text) :
    IsDigits (List.replicate n '0' ++ text) := by
  refine ⟨by simp [h.1], fun c hc => ?_⟩
  rcases List.mem_append.1 hc with hc | hc
  · rw [List.eq_of_mem_replicate hc]
    rfl
  · exact h.2 c hc

theorem isDigits_singleton {c : Char} (hc : c.isDigit = true) : IsDigits [c] :=
  ⟨List.cons_ne_nil _ _, by simpa using hc⟩

theorem dropTrailingZeros_eq (digits : List Char) :
    dropTrailingZeros digits = digits.rdropWhile (· = '0') :=
  rfl

/-- Without the zeros at the end the digits of a positive number are still there, and the first of
them is no zero. -/
theorem dropTrailingZeros_toDigits {n : Nat} (hn : 0 < n) :
    IsDigits (dropTrailingZeros (Nat.toDigits 10 n)) ∧
      (dropTrailingZeros (Nat.toDigits 10 n)).head? ≠ some '0' := by
  have hhead := Json.head_toDigits_ne hn
  have hdigits := isDigits_toDigits n
  have hfront : dropTrailingZeros (Nat.toDigits 10 n) <+: Nat.toDigits 10 n :=
    List.rdropWhile_prefix _ _
  obtain ⟨c, more, heq⟩ := List.exists_cons_of_ne_nil hdigits.1
  have hne : dropTrailingZeros (Nat.toDigits 10 n) ≠ [] := by
    rw [dropTrailingZeros_eq, Ne, List.rdropWhile_eq_nil_iff]
    intro hall
    rw [heq] at hall hhead
    exact hhead (by simpa using hall c List.mem_cons_self)
  refine ⟨⟨hne, fun d hd => hdigits.2 d (hfront.subset hd)⟩, ?_⟩
  obtain ⟨d, left, hleft⟩ := List.exists_cons_of_ne_nil hne
  rw [hleft] at hfront ⊢
  rw [heq] at hfront hhead
  obtain ⟨rfl, -⟩ := List.cons_prefix_cons.1 hfront
  exact hhead

theorem isDecimal_positional {digits : List Char} (h : IsDigits digits)
    (hhead : digits.head? ≠ some '0') (point : Int) : IsDecimal (positional digits point) := by
  unfold positional
  split
  next =>
    exact ⟨['0'], _, rfl, ⟨isDigits_singleton rfl, fun _ => rfl⟩, by
      simpa using IsFractional.point (isDigits_replicate_append point.natAbs h) .none⟩
  next hpos =>
    obtain ⟨c, more, rfl⟩ := List.exists_cons_of_ne_nil h.1
    obtain ⟨size, hsize⟩ : ∃ size, point.toNat = size + 1 := ⟨point.toNat - 1, by omega⟩
    have hwhole : IsWholePart ((c :: more).take (size + 1) ++
        List.replicate (size + 1 - (c :: more).length) '0') := by
      refine ⟨⟨by simp, fun d hd => ?_⟩, fun hzero => absurd ?_ hhead⟩
      · rcases List.mem_append.1 hd with hd | hd
        · exact h.2 d (List.mem_of_mem_take hd)
        · rw [List.eq_of_mem_replicate hd]
          rfl
      · simpa using hzero
    have hrest : IsDigits (if (c :: more).drop (size + 1) = [] then ['0']
        else (c :: more).drop (size + 1)) := by
      split
      next => exact isDigits_singleton rfl
      next hne => exact ⟨hne, fun d hd => h.2 d (List.mem_of_mem_drop hd)⟩
    rw [hsize]
    refine ⟨_, _, rfl, hwhole, ?_⟩
    simpa using IsFractional.point hrest .none

theorem isDecimal_scientific {digits : List Char} (h : IsDigits digits)
    (hhead : digits.head? ≠ some '0') (power : Int) : IsDecimal (scientific digits power) := by
  have hsize : IsDigits (if (Nat.toDigits 10 power.natAbs).length < 2
      then '0' :: Nat.toDigits 10 power.natAbs else Nat.toDigits 10 power.natAbs) := by
    have hdigits := isDigits_toDigits power.natAbs
    split
    next => exact isDigits_replicate_append 1 hdigits
    next => exact hdigits
  have hpower : IsPower ('e' :: (if power < 0 then '-' else '+') ::
      (if (Nat.toDigits 10 power.natAbs).length < 2
        then '0' :: Nat.toDigits 10 power.natAbs else Nat.toDigits 10 power.natAbs)) := by
    refine .signed ?_ hsize
    split
    · exact .inl rfl
    · exact .inr rfl
  have hwhole {c : Char} {more : List Char} (h : IsDigits (c :: more))
      (hhead : (c :: more).head? ≠ some '0') : IsWholePart [c] :=
    ⟨isDigits_singleton (h.2 c List.mem_cons_self), fun hzero => absurd hzero hhead⟩
  unfold scientific
  match digits, h, hhead with
  | [], h, _ => exact absurd rfl h.1
  | [c], h, hhead => exact ⟨[c], _, rfl, hwhole h hhead, .power (List.cons_ne_nil _ _) hpower⟩
  | c :: d :: more, h, hhead =>
    have hmore : IsDigits (d :: more) :=
      ⟨List.cons_ne_nil _ _, fun e he => h.2 e (List.mem_cons_of_mem _ he)⟩
    exact ⟨[c], _, rfl, hwhole h hhead, .point hmore hpower⟩

/-- The text of a number is no whole number. -/
theorem isDecimal_magnitudeText (mantissa : Nat) (exponent : Int) :
    IsDecimal (magnitudeText mantissa exponent) := by
  unfold magnitudeText
  split
  next =>
    exact ⟨['0'], _, rfl, ⟨isDigits_singleton rfl, fun _ => rfl⟩,
      .point (isDigits_singleton (c := '0') rfl) .none⟩
  next hmantissa =>
    obtain ⟨hdigits, hhead⟩ :=
      dropTrailingZeros_toDigits (shortest_pos (Nat.pos_of_ne_zero hmantissa) exponent)
    dsimp only
    split
    · exact isDecimal_positional hdigits hhead _
    · exact isDecimal_scientific hdigits hhead _

end ScriptStats.Binary64
