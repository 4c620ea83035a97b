import Mathlib.Data.List.TakeDrop
import Mathlib.Tactic.IntervalCases
import ScriptStats.Json.Parser

/-!
# Whole numbers read back

The decimal digits of a number are read as that number, unless there are too many of them.
-/

namespace ScriptStats.Json

/-! ## Digits -/

theorem digitsOf_append {digits rest : List Char} (hdigits : ∀ c ∈ digits, c.isDigit = true)
    (hrest : ∀ c ∈ rest.head?, c.isDigit = false) : digitsOf (digits ++ rest) = (digits, rest) := by
  rw [digitsOf, List.span_eq_takeWhile_dropWhile, List.takeWhile_append_of_pos hdigits,
    List.dropWhile_append_of_pos hdigits]
  cases rest with
  | nil => simp
  | cons c rest =>
    have hc : c.isDigit = false := hrest c rfl
    simp [hc]

theorem natOf_toDigits (n : Nat) : natOf (Nat.toDigits 10 n) = n := by
  rw [natOf, Text.ofDigits, List.foldl_map]
  have hfold := Nat.ofDigitChars_ten_toDigits (n := n)
  rw [Nat.ofDigitChars_eq_foldl] at hfold
  simpa [Nat.mul_comm] using hfold

theorem isDigit_of_mem_toDigits {n : Nat} {c : Char} (h : c ∈ Nat.toDigits 10 n) :
    c.isDigit = true :=
  Nat.isDigit_of_mem_toDigits (by decide) (by decide) h

/-- A number above zero does not begin with a zero. -/
theorem head_toDigits_ne {n : Nat} (hn : 0 < n) : (Nat.toDigits 10 n).head? ≠ some '0' := by
  induction n using Nat.strongRecOn with
  | ind n ih =>
    by_cases hsmall : n < 10
    · rw [Nat.toDigits_of_lt_base hsmall]
      interval_cases n <;> decide
    · have hrest := ih (n / 10) (by omega) (by omega)
      obtain ⟨c, digits, heq⟩ :=
        List.exists_cons_of_ne_nil (Nat.toDigits_ne_nil (n := n / 10) (b := 10))
      rw [Nat.toDigits_of_base_le (by decide) (by omega), heq]
      simpa [heq] using hrest

def IsDigits (text : List Char) : Prop :=
  text ≠ [] ∧ ∀ c ∈ text, c.isDigit = true

/-- Digits of which the first is a zero only if there is no other. -/
def IsWholePart (text : List Char) : Prop :=
  IsDigits text ∧ (text.head? = some '0' → text = ['0'])

theorem isDigits_toDigits (n : Nat) : IsDigits (Nat.toDigits 10 n) :=
  ⟨Nat.toDigits_ne_nil, fun _ => isDigit_of_mem_toDigits⟩

theorem isWholePart_toDigits (n : Nat) : IsWholePart (Nat.toDigits 10 n) := by
  refine ⟨isDigits_toDigits n, fun hzero => ?_⟩
  obtain rfl | hn := Nat.eq_zero_or_pos n
  · rfl
  · exact absurd hzero (head_toDigits_ne hn)

/-! ## Numbers -/

/-- What may follow a value that is spread over lines. -/
def EndsValue (rest : List Char) : Prop :=
  ∀ c ∈ rest.head?, c = ',' ∨ c = '\n'

theorem isDigit_eq_false_of_endsValue {rest : List Char} (hrest : EndsValue rest) :
    ∀ c ∈ rest.head?, c.isDigit = false :=
  fun c hc => by rcases hrest c hc with rfl | rfl <;> rfl

theorem wholePart?_append {whole rest : List Char} (hwhole : IsWholePart whole)
    (hrest : ∀ c ∈ rest.head?, c.isDigit = false) :
    wholePart? (whole ++ rest) = some (whole, rest) := by
  obtain ⟨hdigits, hzero⟩ := hwhole
  have hread := digitsOf_append hdigits.2 hrest
  obtain ⟨c, more, rfl⟩ := List.exists_cons_of_ne_nil hdigits.1
  by_cases hc : c = '0'
  · subst hc
    rw [hzero rfl]
    rfl
  · rw [List.cons_append] at hread ⊢
    rw [wholePart?.eq_def]
    split
    next h => exact absurd (List.cons.inj h).1 hc
    next => rw [hread]

theorem wholePart?_toDigits (n : Nat) {rest : List Char} (hrest : EndsValue rest) :
    wholePart? (Nat.toDigits 10 n ++ rest) = some (Nat.toDigits 10 n, rest) :=
  wholePart?_append (isWholePart_toDigits n) (isDigit_eq_false_of_endsValue hrest)

theorem fractionPart_eq {rest : List Char} (hrest : EndsValue rest) :
    fractionPart rest = ([], rest) := by
  unfold fractionPart
  split
  next rest => simpa using hrest '.' rfl
  next => rfl

theorem exponentPart_eq {rest : List Char} (hrest : EndsValue rest) :
    exponentPart rest = (none, rest) := by
  unfold exponentPart
  split
  next e rest =>
    rcases hrest e rfl with rfl | rfl <;> rfl
  next => rfl

theorem numberOf_toDigits (negative : Bool) (start : List Char) (n : Nat) {rest : List Char}
    (hrest : EndsValue rest) :
    numberOf negative start (Nat.toDigits 10 n ++ rest) =
      if (Nat.toDigits 10 n).length > Text.digitLimit then
        .error (.tooManyDigits (Nat.toDigits 10 n).length)
      else .ok (.int (if negative then -n else n), rest) := by
  simp [numberOf, wholePart?_toDigits n hrest, fractionPart_eq hrest, exponentPart_eq hrest,
    natOf_toDigits]

end ScriptStats.Json
