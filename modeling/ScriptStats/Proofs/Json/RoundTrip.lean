import ScriptStats.Proofs.Json.Layout

/-!
# Values read back

A value that is written over lines is read as itself, but for its floating point numbers, of which
it is only shown that they are read as such. Nothing is refused but what is nested too deeply and
numbers with too many digits.
-/

namespace ScriptStats.Json

/-! ## Values but for their floating point numbers -/

mutual

/-- The value with one and the same number in place of all floating point numbers. -/
def blur : Json → Json
  | float _ => float .nan
  | array items => array (blurItems items)
  | object fields => object (blurFields fields)
  | value => value

def blurItems : List Json → List Json
  | [] => []
  | item :: items => blur item :: blurItems items

def blurFields : List (RawText × Json) → List (RawText × Json)
  | [] => []
  | (name, value) :: fields => (name, blur value) :: blurFields fields

end

theorem blurItems_eq (items : List Json) : blurItems items = items.map blur := by
  induction items with
  | nil => rfl
  | cons item items ih => rw [blurItems, ih, List.map_cons]

theorem blurFields_eq (fields : List (RawText × Json)) :
    blurFields fields = fields.map fun field => (field.1, blur field.2) := by
  induction fields with
  | nil => rfl
  | cons field fields ih => rw [blurFields, ih, List.map_cons]

theorem blur_array (items : List Json) : blur (.array items) = .array (items.map blur) := by
  rw [blur, blurItems_eq]

theorem blur_object (fields : List (RawText × Json)) :
    blur (.object fields) = .object (fields.map fun field => (field.1, blur field.2)) := by
  rw [blur, blurFields_eq]

theorem map_fst_of_map_blur {fields others : List (RawText × Json)}
    (h : (fields.map fun field => (field.1, blur field.2)) =
      others.map fun field => (field.1, blur field.2)) :
    fields.map Prod.fst = others.map Prod.fst := by
  have hnames := congrArg (List.map Prod.fst) h
  rwa [List.map_map, List.map_map] at hnames

theorem eq_of_map_eq_map {α β : Type} {f : α → β} {items others : List α}
    (h : others.map f = items.map f)
    (hitem : ∀ item ∈ items, ∀ other, f other = f item → other = item) : others = items := by
  induction items generalizing others with
  | nil => exact List.map_eq_nil_iff.1 h
  | cons item items ih =>
    obtain ⟨other, more, rfl, hother, hmore⟩ := List.map_eq_cons_iff.1 h
    rw [hitem item List.mem_cons_self other hother,
      ih hmore fun item hmem => hitem item (List.mem_cons_of_mem _ hmem)]

/-- What looks like a value without floating point numbers is that value. -/
theorem IsPlain.eq_of_blur_eq {v w : Json} (h : v.IsPlain) (hblur : w.blur = v.blur) : w = v := by
  induction h generalizing w with
  | null | bool | int | string => cases w <;> first | exact hblur | cases hblur
  | @array items hitems ih =>
    cases w with
    | array others =>
      rw [blur_array, blur_array, array.injEq] at hblur
      rw [eq_of_map_eq_map hblur ih]
    | _ => cases hblur
  | @object fields hnodup hnames hvalues ih =>
    cases w with
    | object others =>
      rw [blur_object, blur_object, object.injEq] at hblur
      rw [eq_of_map_eq_map hblur fun field hfield other heq => Prod.ext (Prod.mk.inj heq).1
        (ih field hfield (Prod.mk.inj heq).2)]
    | _ => cases hblur

/-! ## What can be read -/

/-- No more than `depth` arrays and objects stand inside one another. -/
inductive Nested : Nat → Json → Prop where
  | null {depth : Nat} : Nested depth .null
  | bool {depth : Nat} {b : Bool} : Nested depth (.bool b)
  | int {depth : Nat} {n : Int} : Nested depth (.int n)
  | float {depth : Nat} {x : Binary64} : Nested depth (.float x)
  | string {depth : Nat} {s : RawText} : Nested depth (.string s)
  | array {depth : Nat} {items : List Json} : (∀ item ∈ items, Nested depth item) →
      Nested (depth + 1) (.array items)
  | object {depth : Nat} {fields : List (RawText × Json)} :
      (∀ field ∈ fields, Nested depth field.2) → Nested (depth + 1) (.object fields)

/-- The value is within the limits of a reader. -/
def Fits (depth : Nat) (v : Json) : Prop :=
  v.Nested depth ∧ v.hasWritableNumbers = true

theorem not_fits_zero_array (items : List Json) : ¬ Fits 0 (.array items) := by
  rintro ⟨⟨⟩, -⟩

theorem not_fits_zero_object (fields : List (RawText × Json)) : ¬ Fits 0 (.object fields) := by
  rintro ⟨⟨⟩, -⟩

theorem everyItem_eq_all (name : RawText → Bool) (leaf : Json → Bool) (items : List Json) :
    everyItem name leaf items = items.all (every name leaf) := by
  induction items with
  | nil => rfl
  | cons item items ih => rw [everyItem, ih, List.all_cons]

theorem everyField_eq_all (name : RawText → Bool) (leaf : Json → Bool)
    (fields : List (RawText × Json)) : everyField name leaf fields =
      fields.all fun field => name field.1 && every name leaf field.2 := by
  induction fields with
  | nil => rfl
  | cons field fields ih => rw [everyField, ih, List.all_cons]

theorem hasWritableNumbers_int (n : Int) : hasWritableNumbers (.int n) = Text.isWritable n := by
  simp only [hasWritableNumbers, every]

theorem hasWritableNumbers_array (items : List Json) :
    hasWritableNumbers (.array items) = items.all hasWritableNumbers := by
  rw [hasWritableNumbers, every, everyItem_eq_all]

theorem hasWritableNumbers_object (fields : List (RawText × Json)) :
    hasWritableNumbers (.object fields) = fields.all fun field => hasWritableNumbers field.2 := by
  rw [hasWritableNumbers, every, everyField_eq_all]
  rfl

theorem fits_array_iff {depth : Nat} {items : List Json} :
    Fits (depth + 1) (.array items) ↔ ∀ item ∈ items, Fits depth item := by
  rw [Fits, hasWritableNumbers_array, List.all_eq_true]
  constructor
  · rintro ⟨hnested, hwritable⟩ item hitem
    cases hnested with
    | array hnested => exact ⟨hnested item hitem, hwritable item hitem⟩
  · intro h
    exact ⟨.array fun item hitem => (h item hitem).1, fun item hitem => (h item hitem).2⟩

theorem fits_object_iff {depth : Nat} {fields : List (RawText × Json)} :
    Fits (depth + 1) (.object fields) ↔ ∀ field ∈ fields, Fits depth field.2 := by
  rw [Fits, hasWritableNumbers_object, List.all_eq_true]
  constructor
  · rintro ⟨hnested, hwritable⟩ field hfield
    cases hnested with
    | object hnested => exact ⟨hnested field hfield, hwritable field hfield⟩
  · intro h
    exact ⟨.object fun field hfield => (h field hfield).1, fun field hfield => (h field hfield).2⟩

/-- What is read is as it should be, with `rest` left, and nothing that fits is refused. -/
def Reads {α : Type} (fits : Prop) (like : α → Prop) (rest : List Char) :
    Except Failure (α × List Char) → Prop
  | .ok (a, left) => like a ∧ left = rest
  | .error _ => ¬ fits

section Reads

variable {α β : Type} {fits : Prop} {like : α → Prop} {other : β → Prop} {rest left : List Char}

theorem ok_bind (found : α) (next : α → Except Failure β) : Except.ok found >>= next = next found :=
  rfl

theorem Reads.mono {fits' : Prop} {outcome : Except Failure (α × List Char)}
    (h : Reads fits like rest outcome) (hfits : fits' → fits) : Reads fits' like rest outcome := by
  cases outcome with
  | ok found => exact h
  | error failure => exact mt hfits h

theorem Reads.bind {outcome : Except Failure (α × List Char)}
    {next : α × List Char → Except Failure (β × List Char)} (h : Reads fits like rest outcome)
    (hnext : ∀ a, like a → Reads fits other left (next (a, rest))) :
    Reads fits other left (outcome >>= next) := by
  cases outcome with
  | error failure => exact h
  | ok found =>
    obtain ⟨a, _⟩ := found
    obtain ⟨hlike, rfl⟩ := h
    exact hnext a hlike

theorem Reads.ok_of_fits {outcome : Except Failure (α × List Char)}
    (h : Reads fits like rest outcome) (hfits : fits) :
    ∃ a, outcome = .ok (a, rest) ∧ like a := by
  cases outcome with
  | error failure => exact absurd hfits h
  | ok found =>
    obtain ⟨a, _⟩ := found
    obtain ⟨hlike, rfl⟩ := h
    exact ⟨a, rfl, hlike⟩

end Reads

/-- The reader reads the value where it is written. -/
def Faithful (depth : Nat) (v : Json) : Prop :=
  ∀ level rest, EndsValue rest →
    Reads (Fits depth v) (fun w => w.blur = v.blur) rest (value depth (textAt level v ++ rest))

/-! ## Scalars -/

theorem ne_of_isDigit {c d : Char} (hc : c.isDigit = true) (hd : d.isDigit = false) : d ≠ c := by
  rintro rfl
  rw [hc] at hd
  cases hd

theorem literal?_eq_none {word : String} {first : Char} {more text : List Char} {c : Char}
    (hword : word.toList = first :: more) (hne : first ≠ c) : literal? word (c :: text) = none := by
  simp [literal?, hword, List.isPrefixOf, hne]

theorem constant?_digit {c : Char} (hc : c.isDigit = true) (text : List Char) :
    constant? (c :: text) = none := by
  rw [constant?, List.findSome?_eq_none_iff]
  intro found hfound
  rw [Option.map_eq_none_iff]
  simp only [constants, List.mem_cons, List.not_mem_nil, or_false] at hfound
  rcases hfound with rfl | rfl | rfl | rfl | rfl | rfl <;>
    exact literal?_eq_none rfl (ne_of_isDigit hc rfl)

theorem constant?_minus_digit {c : Char} (hc : c.isDigit = true) (text : List Char) :
    constant? ('-' :: c :: text) = none := by
  rw [constant?, List.findSome?_eq_none_iff]
  intro found hfound
  rw [Option.map_eq_none_iff]
  simp only [constants, List.mem_cons, List.not_mem_nil, or_false] at hfound
  rcases hfound with rfl | rfl | rfl | rfl | rfl | rfl
  case inr.inr.inr.inr.inr =>
    have hne : 'I' ≠ c := ne_of_isDigit hc rfl
    simp [literal?, List.isPrefixOf, hne]
  all_goals exact literal?_eq_none rfl (by decide)

theorem value_eq_number {depth : Nat} {c : Char} {text : List Char}
    (hc : c.isDigit = true ∨ c = '-') (hconstant : constant? (c :: text) = none) :
    value depth (c :: text) = number (c :: text) := by
  have hne : c ≠ '"' ∧ c ≠ '[' ∧ c ≠ '{' := by
    refine ⟨?_, ?_, ?_⟩ <;> rintro rfl <;> revert hc <;> decide
  rw [value.eq_def]
  simp only
  split
  next inside heq => exact absurd (List.cons.inj heq).1 hne.1
  next inside heq => exact absurd (List.cons.inj heq).1 hne.2.1
  next inside heq => exact absurd (List.cons.inj heq).1 hne.2.2
  next => rw [hconstant]

theorem reads_numberOf (negative : Bool) (start : List Char) (n : Nat) {rest : List Char}
    (hrest : EndsValue rest) :
    Reads ((Nat.toDigits 10 n).length ≤ Text.digitLimit)
      (fun w => w.blur = blur (.int (if negative then -n else n))) rest
      (numberOf negative start (Nat.toDigits 10 n ++ rest)) := by
  rw [numberOf_toDigits negative start n hrest]
  by_cases hlong : (Nat.toDigits 10 n).length > Text.digitLimit
  · rw [if_pos hlong]
    exact Nat.not_le.2 hlong
  · rw [if_neg hlong]
    exact ⟨rfl, rfl⟩

theorem number_digit {c : Char} (hc : c.isDigit = true) (text : List Char) :
    number (c :: text) = numberOf false (c :: text) (c :: text) := by
  rw [number.eq_def]
  split
  next hminus => exact absurd (List.cons.inj hminus).1 (ne_of_isDigit hc rfl).symm
  next => rfl

theorem length_toDigits_le_iff {n k : Nat} (hk : 0 < k) :
    (Nat.toDigits 10 n).length ≤ k ↔ n < Binary64.tenTo k :=
  Nat.length_toDigits_le_iff (by decide) hk

theorem length_toDigits_le_of_fits {depth : Nat} {n : Int} (h : Fits depth (.int n)) :
    (Nat.toDigits 10 n.natAbs).length ≤ Text.digitLimit := by
  have hwritable := h.2
  rw [hasWritableNumbers_int, Text.isWritable, decide_eq_true_eq] at hwritable
  exact (length_toDigits_le_iff (by decide)).2 hwritable

theorem faithful_int (depth : Nat) (n : Int) : Faithful depth (.int n) := by
  intro level rest hrest
  obtain ⟨c, digits, heq⟩ :=
    List.exists_cons_of_ne_nil (Nat.toDigits_ne_nil (n := n.natAbs) (b := 10))
  have hc : c.isDigit = true := isDigit_of_mem_toDigits (heq ▸ List.mem_cons_self ..)
  have hlength (hfits : Fits depth (.int n)) :
      (Nat.toDigits 10 n.natAbs).length ≤ Text.digitLimit :=
    length_toDigits_le_of_fits hfits
  rw [textAt_int]
  split
  next hneg =>
    have hread := (reads_numberOf true ('-' :: (Nat.toDigits 10 n.natAbs ++ rest)) n.natAbs
      hrest).mono hlength
    rw [if_pos rfl, show -(n.natAbs : Int) = n by omega] at hread
    rw [heq] at hread ⊢
    rw [List.append_assoc, List.singleton_append, List.cons_append,
      value_eq_number (.inr rfl) (constant?_minus_digit hc _)]
    exact hread
  next hpos =>
    have hread :=
      (reads_numberOf false (Nat.toDigits 10 n.natAbs ++ rest) n.natAbs hrest).mono hlength
    rw [if_neg Bool.false_ne_true, show (n.natAbs : Int) = n by omega] at hread
    rw [List.nil_append]
    rw [heq] at hread ⊢
    rw [List.cons_append, value_eq_number (.inl hc) (constant?_digit hc _), number_digit hc]
    exact hread

theorem faithful_float (depth : Nat) (x : Binary64) : Faithful depth (.float x) := by
  intro level rest hrest
  cases x with
  | nan => cases depth <;> exact ⟨rfl, rfl⟩
  | infinite negative => cases negative <;> cases depth <;> exact ⟨rfl, rfl⟩
  | finite negative mantissa exponent =>
    have hdecimal := Binary64.isDecimal_magnitudeText mantissa exponent
    obtain ⟨c, more, heq, hc⟩ := exists_decimal_eq_cons hdecimal
    rw [heq] at hdecimal
    rw [textAt_finite, heq]
    cases negative with
    | false =>
      obtain ⟨y, hread⟩ := numberOf_decimal false (c :: more ++ rest) hdecimal hrest
      rw [if_neg Bool.false_ne_true, List.nil_append]
      rw [List.cons_append] at hread ⊢
      rw [value_eq_number (.inl hc) (constant?_digit hc _), number_digit hc, hread]
      exact ⟨rfl, rfl⟩
    | true =>
      obtain ⟨y, hread⟩ := numberOf_decimal true ('-' :: (c :: more ++ rest)) hdecimal hrest
      rw [if_pos rfl, List.append_assoc, List.singleton_append]
      rw [List.cons_append] at hread ⊢
      rw [value_eq_number (.inr rfl) (constant?_minus_digit hc _), number, hread]
      exact ⟨rfl, rfl⟩

theorem faithful_string (depth : Nat) (s : String) :
    Faithful depth (.string (RawText.ofString s)) := by
  intro level rest _
  rw [textAt_string, value.eq_def]
  simp only [List.cons_append, List.append_assoc, List.nil_append]
  rw [stringRest_flatMap_escapeChar]
  exact ⟨rfl, rfl⟩

theorem faithful_null (depth : Nat) : Faithful depth .null := by
  intro level rest _
  cases depth <;> exact ⟨rfl, rfl⟩

theorem faithful_bool (depth : Nat) (b : Bool) : Faithful depth (.bool b) := by
  intro level rest _
  cases b <;> cases depth <;> exact ⟨rfl, rfl⟩

/-! ## Collections -/

theorem endsValue_breakAt (level : Nat) (rest : List Char) : EndsValue (breakAt level ++ rest) := by
  intro c hc
  simp only [breakAt, List.cons_append, List.head?_cons, Option.mem_some_iff] at hc
  exact .inr hc.symm

theorem endsValue_comma (rest : List Char) : EndsValue (',' :: rest) := by
  intro c hc
  simp only [List.head?_cons, Option.mem_some_iff] at hc
  exact .inl hc.symm

theorem skipSpace_items (level : Nat) {first : Json} (h : first.IsClean) (more : List Json)
    (rest : List Char) :
    skipSpace (separated level ((first :: more).map (textAt level)) ++ rest) =
      separated level ((first :: more).map (textAt level)) ++ rest := by
  obtain ⟨c, part, htext, hc⟩ := exists_textAt_eq_cons level h
  rw [List.map_cons, htext, skipSpace_separated hc.1]

theorem length_le_separated (level : Nat) (part : List Char) (parts : List (List Char))
    (rest : List Char) : parts.length ≤ (separated level (part :: parts) ++ rest).length := by
  induction parts generalizing part with
  | nil => exact Nat.zero_le _
  | cons next parts ih =>
    have hle := ih next
    rw [separated_cons_cons]
    simp only [List.length_append, List.length_cons] at hle ⊢
    omega

/-- The items are read one by one; there is enough fuel for all of them. -/
theorem reads_items {depth : Nat} {first : Json} {more : List Json}
    (hclean : ∀ value ∈ first :: more, value.IsClean)
    (hitem : ∀ value ∈ first :: more, Faithful depth value) {fuel : Nat}
    (hfuel : more.length < fuel) (level : Nat) (rest : List Char) :
    Reads (∀ value ∈ first :: more, Fits depth value)
      (fun found => found.map blur = (first :: more).map blur) rest
      (items (value depth) fuel
        (separated (level + 1) ((first :: more).map (textAt (level + 1))) ++
          (breakAt level ++ ']' :: rest))) := by
  obtain ⟨fuel, rfl⟩ := Nat.exists_eq_succ_of_ne_zero (Nat.ne_zero_of_lt hfuel)
  have hfirst := hitem first (List.mem_cons_self ..) (level + 1)
  have hhead : (∀ value ∈ first :: more, Fits depth value) → Fits depth first := fun h =>
    h first (List.mem_cons_self ..)
  induction more generalizing first fuel with
  | nil =>
    have hlines : separated (level + 1) ([first].map (textAt (level + 1))) =
        textAt (level + 1) first := separated_singleton _ _
    rw [hlines, items]
    refine ((hfirst _ (endsValue_breakAt level (']' :: rest))).mono hhead).bind
      fun found hfound => ?_
    simp only [skipSpace_breakAt, skipSpace_cons (show isSpace ']' = false from rfl)]
    exact ⟨congrArg (fun blurred => [blurred]) hfound, rfl⟩
  | cons second more ih =>
    have hsecond := hclean second (by simp)
    obtain ⟨fuel, rfl⟩ := Nat.exists_eq_succ_of_ne_zero
      (show fuel ≠ 0 by rw [List.length_cons] at hfuel; omega)
    have hmore := ih (fun value hvalue => hclean value (List.mem_cons_of_mem _ hvalue))
      (fun value hvalue => hitem value (List.mem_cons_of_mem _ hvalue)) fuel
      (by rw [List.length_cons] at hfuel; omega) (hitem second (by simp) (level + 1))
      (fun h => h second (List.mem_cons_self ..))
    have hlines : separated (level + 1) ((first :: second :: more).map (textAt (level + 1))) =
        textAt (level + 1) first ++ ',' :: (breakAt (level + 1) ++
          separated (level + 1) ((second :: more).map (textAt (level + 1)))) :=
      separated_cons_cons _ _ _ _
    rw [hlines, items, List.append_assoc, List.cons_append, List.append_assoc]
    refine ((hfirst _ (endsValue_comma _)).mono hhead).bind fun found hfound => ?_
    simp only [skipSpace_cons (show isSpace ',' = false from rfl), skipSpace_breakAt]
    rw [skipSpace_items _ hsecond]
    refine (hmore.mono fun h value hvalue => h value (List.mem_cons_of_mem _ hvalue)).bind
      fun others hothers => ?_
    exact ⟨congrArg₂ List.cons hfound hothers, rfl⟩

/-- The name of a field is read, and the value is next. -/
theorem fields_fieldText {item : Reader Json} (fuel level : Nat) (s : String) {value : Json}
    (hclean : value.IsClean) (tail : List Char) :
    fields item (fuel + 1) (fieldText level (RawText.ofString s, value) ++ tail) = (do
      let (value, text) ← item (textAt level value ++ tail)
      match skipSpace text with
      | '}' :: rest => return ([(RawText.ofString s, value)], rest)
      | ',' :: rest =>
        let (more, rest) ← fields item fuel (skipSpace rest)
        return ((RawText.ofString s, value) :: more, rest)
      | text => flawAt .comma text) := by
  have hspace : skipSpace (' ' :: (textAt level value ++ tail)) = textAt level value ++ tail :=
    skipSpace_textAt level hclean tail
  rw [fieldText, chars_quote, fields.eq_def]
  simp only [List.cons_append, List.append_assoc, List.nil_append]
  rw [stringRest_flatMap_escapeChar, ok_bind]
  simp only [skipSpace_cons (show isSpace ':' = false from rfl), hspace]
  rfl

theorem skipSpace_fields (level : Nat) {first : RawText × Json}
    (hname : ∃ s, first.1 = RawText.ofString s) (more : List (RawText × Json)) (rest : List Char) :
    skipSpace (separated level ((first :: more).map (fieldText level)) ++ rest) =
      separated level ((first :: more).map (fieldText level)) ++ rest := by
  obtain ⟨s, hs⟩ := hname
  rw [List.map_cons, fieldText, hs, chars_quote, List.cons_append, skipSpace_separated rfl]

/-- The fields are read one by one; there is enough fuel for all of them. -/
theorem reads_fields {depth : Nat} {first : RawText × Json} {more : List (RawText × Json)}
    (hnames : ∀ field ∈ first :: more, ∃ s, field.1 = RawText.ofString s)
    (hclean : ∀ field ∈ first :: more, field.2.IsClean)
    (hitem : ∀ field ∈ first :: more, Faithful depth field.2) {fuel : Nat}
    (hfuel : more.length < fuel) (level : Nat) (rest : List Char) :
    Reads (∀ field ∈ first :: more, Fits depth field.2)
      (fun found => (found.map fun field => (field.1, blur field.2)) =
        (first :: more).map fun field => (field.1, blur field.2)) rest
      (fields (value depth) fuel
        (separated (level + 1) ((first :: more).map (fieldText (level + 1))) ++
          (breakAt level ++ '}' :: rest))) := by
  obtain ⟨fuel, rfl⟩ := Nat.exists_eq_succ_of_ne_zero (Nat.ne_zero_of_lt hfuel)
  have hfirst := hitem first (List.mem_cons_self ..) (level + 1)
  have hhead : (∀ field ∈ first :: more, Fits depth field.2) → Fits depth first.2 := fun h =>
    h first (List.mem_cons_self ..)
  induction more generalizing first fuel with
  | nil =>
    obtain ⟨name, value⟩ := first
    obtain ⟨s, rfl⟩ := hnames _ (List.mem_cons_self ..)
    have hlines : separated (level + 1)
        ([(RawText.ofString s, value)].map (fieldText (level + 1))) =
          fieldText (level + 1) (RawText.ofString s, value) := separated_singleton _ _
    rw [hlines, fields_fieldText _ _ _ (hclean _ (List.mem_cons_self ..))]
    refine ((hfirst _ (endsValue_breakAt level ('}' :: rest))).mono hhead).bind
      fun found hfound => ?_
    simp only [skipSpace_breakAt, skipSpace_cons (show isSpace '}' = false from rfl)]
    exact ⟨by simp only [List.map_singleton, hfound], rfl⟩
  | cons second more ih =>
    obtain ⟨name, value⟩ := first
    obtain ⟨s, rfl⟩ := hnames _ (List.mem_cons_self ..)
    have hsecond := hnames second (by simp)
    obtain ⟨fuel, rfl⟩ := Nat.exists_eq_succ_of_ne_zero
      (show fuel ≠ 0 by rw [List.length_cons] at hfuel; omega)
    have hmore := ih (fun field hfield => hnames field (List.mem_cons_of_mem _ hfield))
      (fun field hfield => hclean field (List.mem_cons_of_mem _ hfield))
      (fun field hfield => hitem field (List.mem_cons_of_mem _ hfield)) fuel
      (by rw [List.length_cons] at hfuel; omega) (hitem second (by simp) (level + 1))
      (fun h => h second (List.mem_cons_self ..))
    have hlines : separated (level + 1)
        (((RawText.ofString s, value) :: second :: more).map (fieldText (level + 1))) =
          fieldText (level + 1) (RawText.ofString s, value) ++ ',' :: (breakAt (level + 1) ++
            separated (level + 1) ((second :: more).map (fieldText (level + 1)))) :=
      separated_cons_cons _ _ _ _
    rw [hlines, List.append_assoc, List.cons_append, List.append_assoc,
      fields_fieldText _ _ _ (hclean _ (List.mem_cons_self ..))]
    refine ((hfirst _ (endsValue_comma _)).mono hhead).bind fun found hfound => ?_
    simp only [skipSpace_cons (show isSpace ',' = false from rfl), skipSpace_breakAt]
    rw [skipSpace_fields _ hsecond]
    refine (hmore.mono fun h field hfield => h field (List.mem_cons_of_mem _ hfield)).bind
      fun others hothers => ?_
    exact ⟨by simp only [List.map_cons, hfound, hothers], rfl⟩

/-! ### Objects have each name once -/

theorem putField_eq_append {fields : List (RawText × Json)} {name : RawText}
    (h : name ∉ fields.map Prod.fst) (value : Json) :
    putField fields name value = fields ++ [(name, value)] := by
  induction fields with
  | nil => rfl
  | cons field fields ih =>
    simp only [List.map_cons, List.mem_cons, not_or] at h
    rw [putField, if_neg (Ne.symm h.1), ih h.2, List.cons_append]

theorem foldl_putField (all fields : List (RawText × Json))
    (h : ((all ++ fields).map Prod.fst).Nodup) :
    fields.foldl (fun all (name, value) => putField all name value) all = all ++ fields := by
  induction fields generalizing all with
  | nil => simp
  | cons field fields ih =>
    obtain ⟨name, value⟩ := field
    have hnew : name ∉ all.map Prod.fst := by
      rw [List.map_append, List.map_cons] at h
      exact fun hmem => (List.nodup_append.1 h).2.2 name hmem name (List.mem_cons_self ..) rfl
    have hrest := ih (all ++ [(name, value)]) (by simpa using h)
    rw [List.append_assoc, List.singleton_append] at hrest
    simpa only [List.foldl_cons, putField_eq_append hnew] using hrest

theorem objectOf_eq {fields : List (RawText × Json)} (h : (fields.map Prod.fst).Nodup) :
    objectOf fields = .object fields := by
  rw [objectOf, foldl_putField [] fields (by simpa using h), List.nil_append]

/-! ## Values -/

theorem reads_arrayRest {depth : Nat} {first : Json} {more : List Json}
    (hclean : ∀ value ∈ first :: more, value.IsClean)
    (hitem : ∀ value ∈ first :: more, Faithful depth value) (level : Nat) (rest : List Char) :
    Reads (Fits (depth + 1) (.array (first :: more)))
      (fun w => w.blur = blur (.array (first :: more))) rest
      (arrayRest (value depth) (breakAt (level + 1) ++
        (separated (level + 1) ((first :: more).map (textAt (level + 1))) ++
          (breakAt level ++ ']' :: rest)))) := by
  have hfirst := hclean first (List.mem_cons_self ..)
  have hfuel := length_le_separated (level + 1) (textAt (level + 1) first)
    (more.map (textAt (level + 1))) (breakAt level ++ ']' :: rest)
  rw [List.length_map] at hfuel
  have hread := reads_items hclean hitem (Nat.lt_succ_of_le hfuel) level rest
  rw [arrayRest, skipSpace_breakAt, skipSpace_items _ hfirst]
  split
  next left heq =>
    obtain ⟨c, part, htext, hc⟩ := exists_textAt_eq_cons (level + 1) hfirst
    obtain ⟨tail, htail⟩ := exists_separated_eq_cons (level + 1) c part
      (more.map (textAt (level + 1)))
    rw [List.map_cons, htext, htail] at heq
    exact absurd (List.cons.inj heq).1 hc.2.1
  next =>
    refine (hread.mono fits_array_iff.1).bind fun found hfound => ⟨?_, rfl⟩
    change blur (.array found) = blur (.array (first :: more))
    rw [blur_array, blur_array, hfound]

theorem reads_objectRest {depth : Nat} {first : RawText × Json} {more : List (RawText × Json)}
    (hnodup : ((first :: more).map Prod.fst).Nodup)
    (hnames : ∀ field ∈ first :: more, ∃ s, field.1 = RawText.ofString s)
    (hclean : ∀ field ∈ first :: more, field.2.IsClean)
    (hitem : ∀ field ∈ first :: more, Faithful depth field.2) (level : Nat) (rest : List Char) :
    Reads (Fits (depth + 1) (.object (first :: more)))
      (fun w => w.blur = blur (.object (first :: more))) rest
      (objectRest (value depth) (breakAt (level + 1) ++
        (separated (level + 1) ((first :: more).map (fieldText (level + 1))) ++
          (breakAt level ++ '}' :: rest)))) := by
  have hfirst := hnames first (List.mem_cons_self ..)
  have hfuel := length_le_separated (level + 1) (fieldText (level + 1) first)
    (more.map (fieldText (level + 1))) (breakAt level ++ '}' :: rest)
  rw [List.length_map] at hfuel
  have hread := reads_fields hnames hclean hitem (Nat.lt_succ_of_le hfuel) level rest
  rw [objectRest, skipSpace_breakAt, skipSpace_fields _ hfirst]
  split
  next left heq =>
    obtain ⟨s, hs⟩ := hfirst
    obtain ⟨tail, htail⟩ := exists_separated_eq_cons (level + 1) '"'
      (s.toList.flatMap escapeChar ++ ['"'] ++ ':' :: ' ' :: textAt (level + 1) first.2)
      (more.map (fieldText (level + 1)))
    rw [List.map_cons, fieldText, hs, chars_quote, List.cons_append, htail] at heq
    exact absurd (List.cons.inj heq).1 (by decide)
  next =>
    refine (hread.mono fits_object_iff.1).bind fun found hfound => ⟨?_, rfl⟩
    change blur (objectOf found) = blur (.object (first :: more))
    rw [objectOf_eq (map_fst_of_map_blur hfound ▸ hnodup), blur_object, blur_object, hfound]

/-- Where a value is written, it is read. -/
theorem IsClean.faithful {v : Json} (h : v.IsClean) (depth : Nat) : Faithful depth v := by
  induction h generalizing depth with
  | null => exact faithful_null depth
  | bool b => exact faithful_bool depth b
  | int n => exact faithful_int depth n
  | float x => exact faithful_float depth x
  | string s => exact faithful_string depth s
  | @array items hitems ih =>
    intro level rest _
    cases items with
    | nil => cases depth <;> first | exact not_fits_zero_array _ | exact ⟨rfl, rfl⟩
    | cons first more =>
      rw [textAt_array_cons, value.eq_def]
      simp only [List.cons_append, List.append_assoc, List.nil_append]
      cases depth with
      | zero => exact not_fits_zero_array _
      | succ depth =>
        exact reads_arrayRest hitems (fun value hvalue => ih value hvalue depth) level rest
  | @object fields hnodup hnames hvalues ih =>
    intro level rest _
    cases fields with
    | nil => cases depth <;> first | exact not_fits_zero_object _ | exact ⟨rfl, rfl⟩
    | cons first more =>
      rw [textAt_object_cons, value.eq_def]
      simp only [List.cons_append, List.append_assoc, List.nil_append]
      cases depth with
      | zero => exact not_fits_zero_object _
      | succ depth =>
        exact reads_objectRest hnodup hnames hvalues
          (fun field hfield => ih field hfield depth) level rest

/-- Of what is written, all is read, and no mark of the byte order is met. -/
theorem document_textAt {v : Json} (h : v.IsClean) (depth : Nat) :
    document depth v.prettyRaw.chars = (do
      let (found, rest) ← value depth (textAt 0 v)
      match skipSpace rest with
      | [] => return found
      | rest => flawAt .extra rest) := by
  change document depth (textAt 0 v) = _
  have hskip := skipSpace_textAt 0 h []
  rw [List.append_nil] at hskip
  obtain ⟨c, more, htext, hc⟩ := exists_textAt_eq_cons 0 h
  unfold document
  split
  next heq =>
    rw [htext] at heq
    exact absurd (List.cons.inj heq).1 hc.2.2.2
  next => exact hskip.symm ▸ rfl

theorem IsClean.reads {v : Json} (h : v.IsClean) (depth : Nat) :
    Reads (Fits depth v) (fun w => w.blur = v.blur) [] (value depth (textAt 0 v)) := by
  have hread := h.faithful depth 0 [] (by simp [EndsValue])
  rwa [List.append_nil] at hread

/-- What is read of a value that was written is the value itself, but for its floating point
numbers. -/
theorem blur_eq_of_parse_prettyRaw {v w : Json} (h : v.IsClean) {depth : Nat}
    (hparse : parse depth v.prettyRaw.chars = .ok w) : w.blur = v.blur := by
  have hread := h.reads depth
  rw [parse, document_textAt h] at hparse
  cases hvalue : value depth (textAt 0 v) with
  | error failure =>
    rw [hvalue] at hparse
    cases failure <;> cases hparse
  | ok found =>
    obtain ⟨found, rest⟩ := found
    rw [hvalue] at hread hparse
    obtain ⟨hlike, rfl⟩ := hread
    cases hparse
    exact hlike

/-- A value that was written is read, if it fits. -/
theorem exists_parse_prettyRaw {v : Json} (h : v.IsClean) {depth : Nat} (hfits : Fits depth v) :
    ∃ w, parse depth v.prettyRaw.chars = .ok w ∧ w.blur = v.blur := by
  obtain ⟨w, hread, hlike⟩ := (h.reads depth).ok_of_fits hfits
  refine ⟨w, ?_, hlike⟩
  rw [parse, document_textAt h, hread]
  rfl

/-- What is read of a plain value that was written is the value itself. -/
theorem eq_of_parse_prettyRaw {v w : Json} (h : v.IsPlain) {depth : Nat}
    (hparse : parse depth v.prettyRaw.chars = .ok w) : w = v :=
  h.eq_of_blur_eq (blur_eq_of_parse_prettyRaw h.isClean hparse)

end ScriptStats.Json
