import ScriptStats.Proofs.Binary64.Shortest

/-!
# Fractions and powers of ten read back

What is written of a floating point number is read as one, up to the character behind it.
-/

namespace ScriptStats.Json

open Binary64

theorem exponentPart_power {power rest : List Char} (hpower : IsPower power)
    (hrest : EndsValue rest) :
    ∃ exponent, exponentPart (power ++ rest) = (exponent, rest) ∧
      (power ≠ [] → exponent ≠ none) := by
  cases hpower with
  | none => exact ⟨none, exponentPart_eq hrest, fun h => absurd rfl h⟩
  | @signed sign digits hsign hdigits =>
    have hread := digitsOf_append hdigits.2 (isDigit_eq_false_of_endsValue hrest)
    obtain ⟨c, more, rfl⟩ := List.exists_cons_of_ne_nil hdigits.1
    rcases hsign with rfl | rfl
    all_goals
      simp only [List.cons_append] at hread ⊢
      simp only [exponentPart, hread, true_or, if_true]
      exact ⟨_, rfl, fun _ => Option.some_ne_none _⟩

theorem isDigit_eq_false_of_power {power rest : List Char} (hpower : IsPower power)
    (hrest : EndsValue rest) : ∀ c ∈ (power ++ rest).head?, c.isDigit = false := by
  cases hpower with
  | none => exact isDigit_eq_false_of_endsValue hrest
  | signed =>
    intro c hc
    obtain rfl := Option.some.inj hc
    rfl

/-- The fraction and the power are read, and there is one of the two. -/
theorem fractional_read {tail rest : List Char} (htail : IsFractional tail)
    (hrest : EndsValue rest) : ∃ fraction left exponent,
      fractionPart (tail ++ rest) = (fraction, left) ∧
      exponentPart left = (exponent, rest) ∧ ¬ (fraction = [] ∧ exponent = none) := by
  cases htail with
  | @point digits power hdigits hpower =>
    obtain ⟨exponent, hexponent, -⟩ := exponentPart_power hpower hrest
    have hread := digitsOf_append hdigits.2 (isDigit_eq_false_of_power hpower hrest)
    refine ⟨digits, power ++ rest, exponent, ?_, hexponent, fun h => hdigits.1 h.1⟩
    obtain ⟨c, more, rfl⟩ := List.exists_cons_of_ne_nil hdigits.1
    simp only [List.cons_append, List.append_assoc] at hread ⊢
    simp only [fractionPart, hread]
  | power hne hpower =>
    obtain ⟨exponent, hexponent, hsome⟩ := exponentPart_power hpower hrest
    refine ⟨[], tail ++ rest, exponent, ?_, hexponent, fun h => hsome hne h.2⟩
    cases hpower with
    | none => exact absurd rfl hne
    | signed => rfl

theorem head?_fractional {tail : List Char} (htail : IsFractional tail) (rest : List Char) :
    ∀ c ∈ (tail ++ rest).head?, c.isDigit = false := by
  intro c hc
  cases htail with
  | point =>
    obtain rfl := Option.some.inj hc
    rfl
  | power hne hpower =>
    cases hpower with
    | none => exact absurd rfl hne
    | signed =>
      obtain rfl := Option.some.inj hc
      rfl

theorem numberOf_decimal (negative : Bool) (start : List Char) {text rest : List Char}
    (htext : IsDecimal text) (hrest : EndsValue rest) :
    ∃ x, numberOf negative start (text ++ rest) = .ok (.float x, rest) := by
  obtain ⟨whole, tail, rfl, hwhole, htail⟩ := htext
  obtain ⟨fraction, left, exponent, hfraction, hexponent, hsome⟩ := fractional_read htail hrest
  rw [List.append_assoc, numberOf, wholePart?_append hwhole (head?_fractional htail rest)]
  simp only [hfraction, hexponent, if_neg hsome]
  exact ⟨_, rfl⟩

/-- A decimal number begins with a digit. -/
theorem exists_decimal_eq_cons {text : List Char} (h : IsDecimal text) :
    ∃ c more, text = c :: more ∧ c.isDigit = true := by
  obtain ⟨whole, tail, rfl, ⟨hdigits, -⟩, -⟩ := h
  obtain ⟨c, more, rfl⟩ := List.exists_cons_of_ne_nil hdigits.1
  exact ⟨c, more ++ tail, rfl, hdigits.2 c List.mem_cons_self⟩

end ScriptStats.Json
