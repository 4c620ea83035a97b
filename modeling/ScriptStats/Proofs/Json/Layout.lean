import ScriptStats.Proofs.Json.Fraction
import ScriptStats.Proofs.Json.Quoting

/-!
# Values written over lines

What is written of a value, as characters: the parts of a collection, each on a line of its own.
-/

namespace ScriptStats.Json

/-- No floating point numbers, nothing but characters in texts and names, and each name of an object
once. -/
inductive IsPlain : Json → Prop where
  | null : IsPlain .null
  | bool (b : Bool) : IsPlain (.bool b)
  | int (n : Int) : IsPlain (.int n)
  | string (s : String) : IsPlain (.string (RawText.ofString s))
  | array {items : List Json} : (∀ item ∈ items, IsPlain item) → IsPlain (.array items)
  | object {fields : List (RawText × Json)} : (fields.map Prod.fst).Nodup →
      (∀ field ∈ fields, ∃ s, field.1 = RawText.ofString s) →
      (∀ field ∈ fields, IsPlain field.2) → IsPlain (.object fields)

/-- Nothing but characters in texts and names, and each name of an object once. -/
inductive IsClean : Json → Prop where
  | null : IsClean .null
  | bool (b : Bool) : IsClean (.bool b)
  | int (n : Int) : IsClean (.int n)
  | float (x : Binary64) : IsClean (.float x)
  | string (s : String) : IsClean (.string (RawText.ofString s))
  | array {items : List Json} : (∀ item ∈ items, IsClean item) → IsClean (.array items)
  | object {fields : List (RawText × Json)} : (fields.map Prod.fst).Nodup →
      (∀ field ∈ fields, ∃ s, field.1 = RawText.ofString s) →
      (∀ field ∈ fields, IsClean field.2) → IsClean (.object fields)

/-- Each name of an object once. -/
inductive IsTidy : Json → Prop where
  | null : IsTidy .null
  | bool (b : Bool) : IsTidy (.bool b)
  | int (n : Int) : IsTidy (.int n)
  | float (x : Binary64) : IsTidy (.float x)
  | string (s : RawText) : IsTidy (.string s)
  | array {items : List Json} : (∀ item ∈ items, IsTidy item) → IsTidy (.array items)
  | object {fields : List (RawText × Json)} : (fields.map Prod.fst).Nodup →
      (∀ field ∈ fields, IsTidy field.2) → IsTidy (.object fields)

theorem IsPlain.isClean {value : Json} (h : value.IsPlain) : value.IsClean := by
  induction h with
  | null => exact .null
  | bool b => exact .bool b
  | int n => exact .int n
  | string s => exact .string s
  | array _ ih => exact .array ih
  | object hnodup hnames _ ih => exact .object hnodup hnames ih

theorem IsPlain.isTidy {value : Json} (h : value.IsPlain) : value.IsTidy := by
  induction h with
  | null => exact .null
  | bool b => exact .bool b
  | int n => exact .int n
  | string s => exact .string _
  | array _ ih => exact .array ih
  | object hnodup _ _ ih => exact .object hnodup ih

/-! ## What is written -/

/-- What is written of a value that begins on `level`. -/
def textAt (level : Nat) (value : Json) : List Char :=
  (prettyAt level value).chars

/-- A line break and the indentation of a level. -/
def breakAt (level : Nat) : List Char :=
  '\n' :: List.replicate (2 * level) ' '

theorem chars_newline (level : Nat) : (newline level).chars = breakAt level := by
  simp [newline, breakAt, RawText.chars, CodePoint.toChar]

theorem prettyItems_eq (level : Nat) (items : List Json) :
    prettyItems level items = items.map (prettyAt level) := by
  induction items with
  | nil => rfl
  | cons item items ih => rw [prettyItems, ih, List.map_cons]

theorem prettyFields_eq (level : Nat) (fields : List (RawText × Json)) :
    prettyFields level fields = fields.map fun field =>
      quote field.1 ++ RawText.ofString ": " ++ prettyAt level field.2 := by
  induction fields with
  | nil => rfl
  | cons field fields ih => rw [prettyFields, ih, List.map_cons]

/-- Parts of a collection with commas and line breaks between them. -/
def separated (level : Nat) (parts : List (List Char)) : List Char :=
  List.intercalate (',' :: breakAt level) parts

@[simp]
theorem separated_singleton (level : Nat) (part : List Char) : separated level [part] = part := by
  simp [separated]

theorem separated_cons_cons (level : Nat) (part next : List Char) (parts : List (List Char)) :
    separated level (part :: next :: parts) =
      part ++ ',' :: (breakAt level ++ separated level (next :: parts)) := by
  simp [separated]

theorem chars_intercalate (separator : RawText) (parts : List RawText) :
    RawText.chars (List.intercalate separator parts) =
      List.intercalate separator.chars (parts.map RawText.chars) := by
  induction parts with
  | nil => rfl
  | cons part parts ih =>
    cases parts with
    | nil => simp
    | cons next parts =>
      rw [List.intercalate_cons_cons, RawText.chars_append, RawText.chars_append, ih]
      simp

theorem chars_block (opening closing : Char) (level : Nat) (parts : List RawText) :
    (block opening closing level parts).chars =
      opening :: (breakAt (level + 1) ++ (separated (level + 1) (parts.map RawText.chars) ++
        (breakAt level ++ [closing]))) := by
  simp [block, chars_newline, chars_intercalate, separated]

theorem textAt_array_cons (level : Nat) (item : Json) (items : List Json) :
    textAt level (.array (item :: items)) =
      '[' :: (breakAt (level + 1) ++
        (separated (level + 1) ((item :: items).map (textAt (level + 1))) ++
          (breakAt level ++ [']']))) := by
  rw [textAt, prettyAt, prettyItems_eq, chars_block, List.map_cons, List.map_map]
  rfl

/-- What is written of a field. -/
def fieldText (level : Nat) (field : RawText × Json) : List Char :=
  (quote field.1).chars ++ ':' :: ' ' :: textAt level field.2

theorem textAt_object_cons (level : Nat) (field : RawText × Json) (fields : List (RawText × Json)) :
    textAt level (.object (field :: fields)) =
      '{' :: (breakAt (level + 1) ++
        (separated (level + 1) ((field :: fields).map (fieldText (level + 1))) ++
          (breakAt level ++ ['}']))) := by
  have htext : ∀ field : RawText × Json, RawText.chars (quote field.1 ++ RawText.ofString ": " ++
      prettyAt (level + 1) field.2) = fieldText (level + 1) field := by
    intro field
    simp [fieldText, textAt]
  rw [textAt, prettyAt, prettyFields_eq, chars_block, List.map_cons, List.map_map, htext]
  simp only [Function.comp_def, htext, List.map_cons]

/-! ## Spaces between -/

theorem skipSpace_breakAt (level : Nat) (text : List Char) :
    skipSpace (breakAt level ++ text) = skipSpace text := by
  refine List.dropWhile_append_of_pos fun c hc => ?_
  rcases List.mem_cons.1 hc with rfl | hc
  · rfl
  · rw [List.eq_of_mem_replicate hc]
    rfl

theorem skipSpace_cons {c : Char} (hc : isSpace c = false) (text : List Char) :
    skipSpace (c :: text) = c :: text := by
  rw [skipSpace, List.dropWhile_cons_of_neg (by simp [hc])]

/-- A character with which a value can begin. -/
def BeginsValue (c : Char) : Prop :=
  isSpace c = false ∧ c ≠ ']' ∧ c ≠ '}' ∧ c ≠ '\uFEFF'

theorem beginsValue_of_isDigit {c : Char} (h : c.isDigit = true) : BeginsValue c := by
  refine ⟨?_, ?_, ?_, ?_⟩
  · simp only [isSpace, Bool.or_eq_false_iff, decide_eq_false_iff_not]
    refine ⟨⟨⟨?_, ?_⟩, ?_⟩, ?_⟩ <;> rintro rfl <;> revert h <;> decide
  all_goals
    rintro rfl
    revert h
    decide

theorem toList_toString_int (n : Int) : (toString n).toList =
    (if n < 0 then ['-'] else []) ++ Nat.toDigits 10 n.natAbs := by
  cases n with
  | ofNat n =>
    change (n.repr).toList = _
    rw [Nat.toList_repr, if_neg (by simp)]
    rfl
  | negSucc n =>
    change ("-" ++ (n + 1).repr).toList = _
    rw [String.toList_append, Nat.toList_repr, if_pos (Int.negSucc_lt_zero n)]
    rfl

theorem textAt_int (level : Nat) (n : Int) : textAt level (.int n) =
    (if n < 0 then ['-'] else []) ++ Nat.toDigits 10 n.natAbs := by
  change RawText.chars (RawText.ofString (toString n)) = _
  rw [RawText.chars_ofString, toList_toString_int]

theorem textAt_string (level : Nat) (s : String) : textAt level (.string (RawText.ofString s)) =
    '"' :: (s.toList.flatMap escapeChar ++ ['"']) :=
  chars_quote s

theorem textAt_finite (level : Nat) (negative : Bool) (mantissa : Nat) (exponent : Int) :
    textAt level (.float (.finite negative mantissa exponent)) =
      (if negative then ['-'] else []) ++ Binary64.magnitudeText mantissa exponent := by
  change RawText.chars (RawText.ofString ((Binary64.finite negative mantissa exponent).text
    floatSpelling)) = _
  rw [RawText.chars_ofString, Binary64.text]
  cases negative <;> simp

theorem exists_textAt_float_eq_cons (level : Nat) (x : Binary64) :
    ∃ c more, textAt level (.float x) = c :: more ∧ BeginsValue c := by
  cases x with
  | nan => exact ⟨'N', _, rfl, by unfold BeginsValue; decide⟩
  | infinite negative =>
    cases negative with
    | false => exact ⟨'I', _, rfl, by unfold BeginsValue; decide⟩
    | true => exact ⟨'-', _, rfl, by unfold BeginsValue; decide⟩
  | finite negative mantissa exponent =>
    obtain ⟨c, more, heq, hc⟩ :=
      exists_decimal_eq_cons (Binary64.isDecimal_magnitudeText mantissa exponent)
    rw [textAt_finite, heq]
    cases negative with
    | false => exact ⟨c, more, rfl, beginsValue_of_isDigit hc⟩
    | true => exact ⟨'-', c :: more, rfl, by unfold BeginsValue; decide⟩

theorem exists_textAt_eq_cons (level : Nat) {value : Json} (h : value.IsClean) :
    ∃ c more, textAt level value = c :: more ∧ BeginsValue c := by
  cases h with
  | null => exact ⟨'n', _, rfl, by unfold BeginsValue; decide⟩
  | bool b =>
    cases b with
    | false => exact ⟨'f', _, rfl, by unfold BeginsValue; decide⟩
    | true => exact ⟨'t', _, rfl, by unfold BeginsValue; decide⟩
  | int n =>
    rw [textAt_int]
    split
    · exact ⟨'-', _, rfl, by unfold BeginsValue; decide⟩
    · obtain ⟨c, digits, heq⟩ :=
        List.exists_cons_of_ne_nil (Nat.toDigits_ne_nil (n := n.natAbs) (b := 10))
      have hmem : c ∈ Nat.toDigits 10 n.natAbs := heq ▸ List.mem_cons_self ..
      exact ⟨c, digits, heq, beginsValue_of_isDigit (isDigit_of_mem_toDigits hmem)⟩
  | float x => exact exists_textAt_float_eq_cons level x
  | string s => exact ⟨'"', _, textAt_string level s, by unfold BeginsValue; decide⟩
  | @array items hitems =>
    cases items with
    | nil => exact ⟨'[', _, rfl, by unfold BeginsValue; decide⟩
    | cons item items =>
      exact ⟨'[', _, textAt_array_cons level item items, by unfold BeginsValue; decide⟩
  | @object fields hnodup hnames hvalues =>
    cases fields with
    | nil => exact ⟨'{', _, rfl, by unfold BeginsValue; decide⟩
    | cons field fields =>
      exact ⟨'{', _, textAt_object_cons level field fields, by unfold BeginsValue; decide⟩

theorem skipSpace_textAt (level : Nat) {value : Json} (h : value.IsClean) (rest : List Char) :
    skipSpace (textAt level value ++ rest) = textAt level value ++ rest := by
  obtain ⟨c, more, htext, hc⟩ := exists_textAt_eq_cons level h
  rw [htext, List.cons_append, skipSpace_cons hc.1]

theorem exists_separated_eq_cons (level : Nat) (c : Char) (part : List Char)
    (parts : List (List Char)) : ∃ tail, separated level ((c :: part) :: parts) = c :: tail := by
  cases parts with
  | nil => exact ⟨part, separated_singleton level _⟩
  | cons next parts => exact ⟨_, separated_cons_cons level _ next parts⟩

/-- Where a part begins with a character that is no space, nothing is skipped. -/
theorem skipSpace_separated {c : Char} {part : List Char} (hc : isSpace c = false) (level : Nat)
    (parts : List (List Char)) (rest : List Char) :
    skipSpace (separated level ((c :: part) :: parts) ++ rest) =
      separated level ((c :: part) :: parts) ++ rest := by
  obtain ⟨tail, htail⟩ := exists_separated_eq_cons level c part parts
  rw [htail, List.cons_append, skipSpace_cons hc]

end ScriptStats.Json
