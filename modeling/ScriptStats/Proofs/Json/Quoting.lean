import Mathlib.Tactic.IntervalCases
import ScriptStats.Json.Parser
import ScriptStats.Json.Printer

/-!
# Quoted texts read back

Every escape that is written is read as the character it stands for.
-/

namespace ScriptStats

namespace RawText

@[simp]
theorem chars_nil : chars [] = [] :=
  rfl

@[simp]
theorem chars_cons_char (c : Char) (text : RawText) : chars (.char c :: text) = c :: chars text :=
  rfl

@[simp]
theorem chars_append (text more : RawText) : chars (text ++ more) = chars text ++ chars more :=
  List.map_append

@[simp]
theorem chars_ofChars (text : List Char) : chars (ofChars text) = text := by
  simp [chars, ofChars, CodePoint.toChar, Function.comp_def]

@[simp]
theorem chars_ofString (s : String) : chars (ofString s) = s.toList :=
  chars_ofChars s.toList

theorem isText_ofChars (text : List Char) : (ofChars text).isText = true := by
  simp [isText, ofChars, CodePoint.isHalf]

theorem ofChars_injective {text more : List Char} (h : ofChars text = ofChars more) :
    text = more := by
  rw [← chars_ofChars text, h, chars_ofChars]

theorem ofString_injective {s t : String} (h : ofString s = ofString t) : s = t :=
  String.toList_inj.1 (ofChars_injective h)

end RawText

namespace Json

/-! ## Escapes -/

section Escapes

variable {opened : Nat} {text : List Char}

theorem stringRest_quote : stringRest opened ('"' :: text) = .ok ([], text) := by
  rw [stringRest.eq_def]
  rfl

theorem stringRest_plain {c : Char} (hquote : c ≠ '"') (hcontrol : ¬ c.toNat < 0x20)
    (hslash : c ≠ '\\') : stringRest opened (c :: text) =
      (stringRest opened text).map fun (more, rest) => (.char c :: more, rest) := by
  rw [stringRest.eq_def]
  simp only [if_neg hquote, if_neg hcontrol, if_neg hslash]
  cases stringRest opened text <;> rfl

theorem stringRest_escaped {e c : Char} (hu : e ≠ 'u') (hescape : simpleEscape? e = some c) :
    stringRest opened ('\\' :: e :: text) =
      (stringRest opened text).map fun (more, rest) => (.char c :: more, rest) := by
  rw [stringRest.eq_def]
  simp only [if_neg (show '\\' ≠ '"' by decide), if_neg (show ¬ '\\'.toNat < 0x20 by decide),
    if_neg hu, hescape, if_true]
  cases stringRest opened text <;> rfl

theorem hexValue?_hexDigit {n : Nat} (h : n < 16) : Text.hexValue? (hexDigit n) = some n := by
  interval_cases n <;> rfl

theorem hexFour?_control {n : Nat} (h : n < 0x20) (text : List Char) :
    hexFour? ('0' :: '0' :: hexDigit (n / 16) :: hexDigit (n % 16) :: text) = some (n, text) := by
  have hzero : Text.hexValue? '0' = some 0 := rfl
  have hdigits : Text.ofDigits 16 [0, 0, n / 16, n % 16] = n := by
    simp [Text.ofDigits]
    omega
  simp [hexFour?, hzero, hexValue?_hexDigit (n := n / 16) (by omega),
    hexValue?_hexDigit (n := n % 16) (by omega), hdigits]

theorem ofNumber_toNat (c : Char) : CodePoint.ofNumber c.toNat = .char c := by
  have hvalid : c.toNat < 0xD800 ∨ 0xDFFF < c.toNat ∧ c.toNat < 0x110000 := c.valid
  rw [CodePoint.ofNumber, dif_neg (by simp only [CodePoint.firstSurrogate, surrogateCount]; omega),
    Char.ofNat_toNat]

theorem unicodeEscape_control {c : Char} (hc : c.toNat < 0x20) (hne : text ≠ []) :
    ∃ h, unicodeEscape
        ('0' :: '0' :: hexDigit (c.toNat / 16) :: hexDigit (c.toNat % 16) :: text) =
      .ok (.char c, ⟨text, h⟩) := by
  have hlength : ¬ ('0' :: '0' :: hexDigit (c.toNat / 16) :: hexDigit (c.toNat % 16) ::
      text).length ≤ 4 := by
    have := List.length_pos_iff.2 hne
    simp only [List.length_cons]
    omega
  have hhigh : isHighHalf c.toNat = false := by
    simp only [isHighHalf, Bool.and_eq_false_iff, decide_eq_false_iff_not]
    omega
  unfold unicodeEscape
  rw [if_neg hlength]
  split
  next hnone => simp [hexFour?_control hc] at hnone
  next first rest hfound =>
    rw [hexFour?_control hc] at hfound
    obtain ⟨rfl, rfl⟩ := Prod.mk.inj (Option.some.inj hfound)
    rw [if_neg (by simp [hhigh]), ofNumber_toNat]
    exact ⟨length_of_hexFour? (hexFour?_control hc text), rfl⟩

theorem stringRest_control {c : Char} (hc : c.toNat < 0x20) (hne : text ≠ []) :
    stringRest opened
        ('\\' :: 'u' :: '0' :: '0' :: hexDigit (c.toNat / 16) :: hexDigit (c.toNat % 16) :: text) =
      (stringRest opened text).map fun (more, rest) => (.char c :: more, rest) := by
  obtain ⟨h, hescape⟩ := unicodeEscape_control hc hne
  rw [stringRest.eq_def]
  simp only [if_neg (show '\\' ≠ '"' by decide), if_neg (show ¬ '\\'.toNat < 0x20 by decide),
    if_true, hescape]
  cases stringRest opened text <;> rfl

/-- However a character is written, it is read as itself. -/
theorem stringRest_escapeChar (c : Char) (hne : text ≠ []) :
    stringRest opened (escapeChar c ++ text) =
      (stringRest opened text).map fun (more, rest) => (.char c :: more, rest) := by
  unfold escapeChar
  split
  next h => subst h; exact stringRest_escaped (by decide) rfl
  split
  next h => subst h; exact stringRest_escaped (by decide) rfl
  split
  next h => subst h; exact stringRest_escaped (by decide) rfl
  split
  next h => subst h; exact stringRest_escaped (by decide) rfl
  split
  next h => subst h; exact stringRest_escaped (by decide) rfl
  split
  next h => subst h; exact stringRest_escaped (by decide) rfl
  split
  next h => subst h; exact stringRest_escaped (by decide) rfl
  split
  next hcontrol => exact stringRest_control hcontrol hne
  next hquote hslash _ _ _ _ _ hcontrol => exact stringRest_plain hquote hcontrol hslash

end Escapes

/-! ## Texts -/

theorem chars_quote (s : String) :
    (quote (RawText.ofString s)).chars = '"' :: (s.toList.flatMap escapeChar ++ ['"']) := by
  have hpoints (text : List Char) : RawText.chars ((RawText.ofChars text).flatMap escapePoint) =
      text.flatMap escapeChar := by
    induction text with
    | nil => rfl
    | cons c text ih =>
      change RawText.chars (RawText.ofChars (escapeChar c) ++ (RawText.ofChars text).flatMap
        escapePoint) = escapeChar c ++ text.flatMap escapeChar
      rw [RawText.chars_append, RawText.chars_ofChars, ih]
  simp [quote, RawText.ofString, hpoints]

/-- A text is read up to the quote that ends it. -/
theorem stringRest_flatMap_escapeChar (opened : Nat) (text rest : List Char) :
    stringRest opened (text.flatMap escapeChar ++ '"' :: rest) =
      .ok (RawText.ofChars text, rest) := by
  induction text with
  | nil => exact stringRest_quote
  | cons c text ih =>
    rw [List.flatMap_cons, List.append_assoc, stringRest_escapeChar c (by simp), ih]
    rfl

end Json

end ScriptStats
