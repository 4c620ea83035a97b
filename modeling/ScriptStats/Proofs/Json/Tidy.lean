import ScriptStats.Proofs.Json.Sorted

/-!
# Values that were read

What is read has each name of an object once and is within the limits of the reader. Nothing but
characters is written of such a value if, and only if, its names and texts are made of characters.
-/

namespace ScriptStats.Json

/-! ## Fields put into an object -/

theorem mem_putField {fields : List (RawText × Json)} {name : RawText} {value : Json}
    {field : RawText × Json} (h : field ∈ putField fields name value) :
    field = (name, value) ∨ field ∈ fields := by
  induction fields with
  | nil => exact .inl (List.mem_singleton.1 h)
  | cons head fields ih =>
    rw [putField] at h
    split at h
    next heq =>
      rcases List.mem_cons.1 h with rfl | h
      · exact .inl (by rw [heq])
      · exact .inr (List.mem_cons_of_mem _ h)
    next =>
      rcases List.mem_cons.1 h with rfl | h
      · exact .inr List.mem_cons_self
      · exact (ih h).imp_right (List.mem_cons_of_mem _)

theorem nodup_putField {fields : List (RawText × Json)} (h : (fields.map Prod.fst).Nodup)
    (name : RawText) (value : Json) : ((putField fields name value).map Prod.fst).Nodup := by
  induction fields with
  | nil => exact List.nodup_singleton name
  | cons head fields ih =>
    rw [putField]
    split
    next => exact h
    next hne =>
      rw [List.map_cons, List.nodup_cons] at h ⊢
      refine ⟨fun hmem => ?_, ih h.2⟩
      obtain ⟨field, hfield, heq⟩ := List.mem_map.1 hmem
      rcases mem_putField hfield with rfl | hfield
      · exact hne heq.symm
      · exact h.1 (heq ▸ List.mem_map_of_mem hfield)

theorem foldl_putField_sound (fields all : List (RawText × Json))
    (h : (all.map Prod.fst).Nodup) :
    ((fields.foldl (fun all (name, value) => putField all name value) all).map Prod.fst).Nodup ∧
      ∀ field ∈ fields.foldl (fun all (name, value) => putField all name value) all,
        field ∈ all ∨ field ∈ fields := by
  induction fields generalizing all with
  | nil => exact ⟨h, fun _ => .inl⟩
  | cons head fields ih =>
    obtain ⟨hnodup, hmem⟩ := ih _ (nodup_putField h head.1 head.2)
    refine ⟨hnodup, fun field hfield => ?_⟩
    rcases hmem field hfield with hfield | hfield
    · rcases mem_putField hfield with rfl | hfield
      · exact .inr List.mem_cons_self
      · exact .inl hfield
    · exact .inr (List.mem_cons_of_mem _ hfield)

/-- An object that is put together has each name once, and no other fields than those given. -/
theorem exists_objectOf (fields : List (RawText × Json)) : ∃ kept, objectOf fields = .object kept ∧
    (kept.map Prod.fst).Nodup ∧ ∀ field ∈ kept, field ∈ fields := by
  obtain ⟨hnodup, hmem⟩ := foldl_putField_sound fields [] List.nodup_nil
  refine ⟨_, rfl, hnodup, fun field hfield => ?_⟩
  exact (hmem field hfield).resolve_left List.not_mem_nil

/-! ## What a reader returns -/

theorem exists_of_bind_eq_ok {α β : Type} {outcome : Except Failure α}
    {next : α → Except Failure β} {found : β} (h : outcome >>= next = .ok found) :
    ∃ a, outcome = .ok a ∧ next a = .ok found := by
  cases outcome with
  | error failure => cases h
  | ok a => exact ⟨a, rfl, h⟩

section Reader

variable {P : Json → Prop} {item : Reader Json}
  (hitem : ∀ {text value rest}, item text = .ok (value, rest) → P value)

include hitem

theorem forall_of_items {fuel : Nat} {text rest : List Char} {values : List Json}
    (h : items item fuel text = .ok (values, rest)) : ∀ value ∈ values, P value := by
  induction fuel generalizing text values rest with
  | zero => cases h
  | succ fuel ih =>
    obtain ⟨⟨value, left⟩, hvalue, h⟩ := exists_of_bind_eq_ok h
    dsimp only at h
    split at h
    next =>
      cases h
      exact List.forall_mem_singleton.2 (hitem hvalue)
    next =>
      obtain ⟨⟨more, _⟩, hmore, h⟩ := exists_of_bind_eq_ok h
      cases h
      exact List.forall_mem_cons.2 ⟨hitem hvalue, ih hmore⟩
    next => cases h

theorem exists_of_arrayRest {text rest : List Char} {value : Json}
    (h : arrayRest item text = .ok (value, rest)) :
    ∃ values, value = .array values ∧ ∀ value ∈ values, P value := by
  unfold arrayRest at h
  split at h
  next =>
    cases h
    exact ⟨[], rfl, by simp⟩
  next =>
    obtain ⟨⟨values, _⟩, hvalues, h⟩ := exists_of_bind_eq_ok h
    cases h
    exact ⟨values, rfl, forall_of_items hitem hvalues⟩

theorem forall_of_fields {fuel : Nat} {text rest : List Char} {pairs : List (RawText × Json)}
    (h : fields item fuel text = .ok (pairs, rest)) : ∀ field ∈ pairs, P field.2 := by
  induction fuel generalizing text pairs rest with
  | zero => cases h
  | succ fuel ih =>
    unfold fields at h
    split at h
    next =>
      obtain ⟨⟨name, _⟩, _, h⟩ := exists_of_bind_eq_ok h
      dsimp only at h
      split at h
      next =>
        obtain ⟨⟨value, _⟩, hvalue, h⟩ := exists_of_bind_eq_ok h
        dsimp only at h
        split at h
        next =>
          cases h
          exact List.forall_mem_singleton.2 (hitem hvalue)
        next =>
          obtain ⟨⟨more, _⟩, hmore, h⟩ := exists_of_bind_eq_ok h
          cases h
          exact List.forall_mem_cons.2 ⟨hitem hvalue, ih hmore⟩
        next => cases h
      next => cases h
    next => cases h

theorem exists_of_objectRest {text rest : List Char} {value : Json}
    (h : objectRest item text = .ok (value, rest)) :
    ∃ kept, value = .object kept ∧ (kept.map Prod.fst).Nodup ∧ ∀ field ∈ kept, P field.2 := by
  unfold objectRest at h
  split at h
  next =>
    cases h
    exact ⟨[], rfl, List.nodup_nil, by simp⟩
  next =>
    obtain ⟨⟨pairs, _⟩, hpairs, h⟩ := exists_of_bind_eq_ok h
    cases h
    obtain ⟨kept, hkept, hnodup, hmem⟩ := exists_objectOf pairs
    exact ⟨kept, hkept, hnodup, fun field hfield =>
      forall_of_fields hitem hpairs field (hmem field hfield)⟩

end Reader

/-! ## Numbers -/

theorem isDigit_of_mem_digitsOf {text : List Char} {c : Char} (h : c ∈ (digitsOf text).1) :
    c.isDigit = true := by
  rw [digitsOf, List.span_eq_takeWhile_dropWhile] at h
  exact List.mem_takeWhile_imp h

theorem isDigit_of_wholePart? {text rest whole : List Char}
    (h : wholePart? text = some (whole, rest)) : ∀ c ∈ whole, c.isDigit = true := by
  unfold wholePart? at h
  split at h
  next =>
    cases h
    exact List.forall_mem_singleton.2 rfl
  next =>
    split at h
    next => cases h
    next =>
      obtain rfl := congrArg Prod.fst (Option.some.inj h)
      exact fun c => isDigit_of_mem_digitsOf

theorem foldl_digits_lt (digits : List Char) (h : ∀ c ∈ digits, c.isDigit = true) (n : Nat) :
    (digits.map fun c => c.toNat - 48).foldl (fun n d => n * 10 + d) n <
      (n + 1) * 10 ^ digits.length := by
  induction digits generalizing n with
  | nil => simp
  | cons c digits ih =>
    have hc : c.toNat ≤ 57 := (Char.isDigit_iff_toNat.1 (h c List.mem_cons_self)).2
    calc (digits.map fun c => c.toNat - 48).foldl (fun n d => n * 10 + d) (n * 10 + (c.toNat - 48))
        < (n * 10 + (c.toNat - 48) + 1) * 10 ^ digits.length :=
          ih (fun d hd => h d (List.mem_cons_of_mem _ hd)) _
      _ ≤ (n + 1) * 10 * 10 ^ digits.length := Nat.mul_le_mul_right _ (by omega)
      _ = (n + 1) * 10 ^ (digits.length + 1) := by rw [Nat.pow_succ', Nat.mul_assoc]

theorem natOf_lt {digits : List Char} (h : ∀ c ∈ digits, c.isDigit = true) :
    natOf digits < Binary64.tenTo digits.length := by
  have hlt := foldl_digits_lt digits h 0
  rwa [Nat.zero_add, Nat.one_mul] at hlt

theorem tenTo_mono {m n : Nat} (h : m ≤ n) : Binary64.tenTo m ≤ Binary64.tenTo n :=
  Nat.pow_le_pow_right (by decide) h

theorem isWritable_natOf {digits : List Char} (h : ∀ c ∈ digits, c.isDigit = true)
    (hlength : digits.length ≤ Text.digitLimit) (negative : Bool) :
    Text.isWritable (if negative then -(natOf digits : Int) else natOf digits) = true := by
  have hlt : natOf digits < Binary64.tenTo Text.digitLimit :=
    (natOf_lt h).trans_le (tenTo_mono hlength)
  rw [Text.isWritable, decide_eq_true_eq]
  split
  · rwa [Int.natAbs_neg, Int.natAbs_natCast]
  · rwa [Int.natAbs_natCast]

theorem fits_numberOf {depth : Nat} {negative : Bool} {start text rest : List Char} {found : Json}
    (h : numberOf negative start text = .ok (found, rest)) : found.IsTidy ∧ Fits depth found := by
  unfold numberOf at h
  split at h
  next => cases h
  next whole _ hwhole =>
    dsimp only at h
    split at h
    next =>
      split at h
      next => cases h
      next hlength =>
        cases h
        refine ⟨.int _, .int, ?_⟩
        rw [hasWritableNumbers_int]
        exact isWritable_natOf (isDigit_of_wholePart? hwhole) (Nat.not_lt.1 hlength) negative
    next =>
      cases h
      exact ⟨.float _, .float, rfl⟩

theorem fits_number {depth : Nat} {text rest : List Char} {found : Json}
    (h : number text = .ok (found, rest)) : found.IsTidy ∧ Fits depth found := by
  unfold number at h
  split at h <;> exact fits_numberOf h

theorem fits_constant {depth : Nat} {text rest : List Char} {value : Json}
    (h : constant? text = some (value, rest)) : value.IsTidy ∧ Fits depth value := by
  obtain ⟨⟨word, found⟩, hmem, hfound⟩ := List.exists_of_findSome?_eq_some h
  obtain ⟨left, -, heq⟩ := Option.map_eq_some_iff.1 hfound
  cases heq
  simp only [constants, List.mem_cons, Prod.mk.injEq, List.not_mem_nil, or_false] at hmem
  rcases hmem with ⟨-, rfl⟩ | ⟨-, rfl⟩ | ⟨-, rfl⟩ | ⟨-, rfl⟩ | ⟨-, rfl⟩ | ⟨-, rfl⟩ <;>
    exact ⟨by constructor, by constructor, rfl⟩

/-! ## Values -/

/-- How a value can have been read. -/
theorem cases_of_value {depth : Nat} {text rest : List Char} {found : Json}
    (h : value depth text = .ok (found, rest)) :
    (∃ s, found = .string s) ∨ constant? text = some (found, rest) ∨
      number text = .ok (found, rest) ∨
      ∃ below inside, depth = below + 1 ∧ (arrayRest (value below) inside = .ok (found, rest) ∨
        objectRest (value below) inside = .ok (found, rest)) := by
  rw [value.eq_def] at h
  dsimp only at h
  split at h
  next =>
    obtain ⟨⟨s, _⟩, _, h⟩ := exists_of_bind_eq_ok h
    cases h
    exact .inl ⟨s, rfl⟩
  next inside =>
    cases depth with
    | zero => cases h
    | succ below => exact .inr (.inr (.inr ⟨below, inside, rfl, .inl h⟩))
  next inside =>
    cases depth with
    | zero => cases h
    | succ below => exact .inr (.inr (.inr ⟨below, inside, rfl, .inr h⟩))
  next =>
    split at h
    next hconstant => exact .inr (.inl (hconstant.trans (congrArg some (Except.ok.inj h))))
    next => exact .inr (.inr (.inl h))

theorem fits_value {depth : Nat} {text rest : List Char} {found : Json}
    (h : value depth text = .ok (found, rest)) : found.IsTidy ∧ Fits depth found := by
  induction depth using Nat.strongRecOn generalizing text found rest with
  | ind depth ih =>
    rcases cases_of_value h with
      ⟨s, rfl⟩ | hconstant | hnumber | ⟨below, inside, rfl, harray | hobject⟩
    · exact ⟨.string s, .string, rfl⟩
    · exact fits_constant hconstant
    · exact fits_number hnumber
    · obtain ⟨values, rfl, hvalues⟩ := exists_of_arrayRest (ih below below.lt_succ_self) harray
      exact ⟨.array fun value hvalue => (hvalues value hvalue).1,
        fits_array_iff.2 fun value hvalue => (hvalues value hvalue).2⟩
    · obtain ⟨kept, rfl, hnodup, hkept⟩ :=
        exists_of_objectRest (ih below below.lt_succ_self) hobject
      exact ⟨.object hnodup fun field hfield => (hkept field hfield).1,
        fits_object_iff.2 fun field hfield => (hkept field hfield).2⟩

/-- What is read has each name of an object once and is within the limits of the reader. -/
theorem fits_of_parse {depth : Nat} {text : List Char} {found : Json}
    (h : parse depth text = .ok found) : found.IsTidy ∧ Fits depth found := by
  unfold parse at h
  split at h
  next value hdocument =>
    cases h
    unfold document at hdocument
    split at hdocument
    next => cases hdocument
    next =>
      obtain ⟨⟨value, rest⟩, hvalue, hdocument⟩ := exists_of_bind_eq_ok hdocument
      dsimp only at hdocument
      split at hdocument
      next =>
        cases hdocument
        exact fits_value hvalue
      next => cases hdocument
  all_goals cases h

/-! ## Characters -/

theorem exists_ofString_of_forall {text : RawText} (h : ∀ c ∈ text, c.isHalf = false) :
    ∃ s, text = RawText.ofString s := by
  induction text with
  | nil => exact ⟨"", rfl⟩
  | cons c text ih =>
    obtain ⟨s, rfl⟩ := ih fun d hd => h d (List.mem_cons_of_mem _ hd)
    cases c with
    | char c => exact ⟨String.ofList (c :: s.toList), by simp [RawText.ofString, RawText.ofChars]⟩
    | half n => exact absurd (h _ List.mem_cons_self) Bool.noConfusion

/-- Where halves of pairs are left out of what is quoted, there were none. -/
theorem exists_ofString_of_quote {s : RawText} (h : ∀ c ∈ quote s, c.isHalf = false) :
    ∃ t, s = RawText.ofString t := by
  refine exists_ofString_of_forall fun c hc => ?_
  cases c with
  | char c => rfl
  | half n =>
    refine h _ (List.mem_append_left _ (List.mem_cons_of_mem _ ?_))
    exact List.mem_flatMap.2 ⟨_, hc, List.mem_singleton.2 rfl⟩

theorem mem_intercalate {α : Type} {separator part : List α} {parts : List (List α)}
    (hpart : part ∈ parts) {a : α} (ha : a ∈ part) : a ∈ List.intercalate separator parts := by
  induction parts with
  | nil => cases hpart
  | cons head parts ih =>
    cases parts with
    | nil =>
      obtain rfl := List.mem_singleton.1 hpart
      simpa using ha
    | cons next parts =>
      rw [List.intercalate_cons_cons]
      rcases List.mem_cons.1 hpart with rfl | hpart
      · exact List.mem_append_left _ (List.mem_append_left _ ha)
      · exact List.mem_append_right _ (ih hpart)

theorem mem_block {opening closing : Char} {level : Nat} {parts : List RawText} {part : RawText}
    (hpart : part ∈ parts) {c : CodePoint} (hc : c ∈ part) :
    c ∈ block opening closing level parts :=
  List.mem_append_left _ <| List.mem_append_left _ <| List.mem_append_right _ <|
    mem_intercalate hpart hc

/-- If nothing but characters is written of a value, there is nothing else in it. -/
theorem IsTidy.isClean {v : Json} (h : v.IsTidy) (level : Nat)
    (htext : ∀ c ∈ prettyAt level v, c.isHalf = false) : v.IsClean := by
  induction h generalizing level with
  | null => exact .null
  | bool b => exact .bool b
  | int n => exact .int n
  | float x => exact .float x
  | string s =>
    obtain ⟨s, rfl⟩ := exists_ofString_of_quote htext
    exact .string s
  | @array items _ ih =>
    cases items with
    | nil => exact .array (by simp)
    | cons first more =>
      refine .array fun item hitem => ih item hitem (level + 1) fun c hc => ?_
      refine htext c (mem_block (?_ : prettyAt (level + 1) item ∈ _) hc)
      rw [prettyItems_eq, ← List.map_cons]
      exact List.mem_map_of_mem hitem
  | @object fields hnodup _ ih =>
    cases fields with
    | nil => exact .object hnodup (by simp) (by simp)
    | cons first more =>
      have hfield : ∀ field ∈ first :: more,
          ∀ c ∈ quote field.1 ++ RawText.ofString ": " ++ prettyAt (level + 1) field.2,
            c.isHalf = false := by
        intro field hfield c hc
        refine htext c (mem_block ?_ hc)
        rw [prettyFields_eq]
        exact List.mem_map_of_mem (f := fun field : RawText × Json =>
          quote field.1 ++ RawText.ofString ": " ++ prettyAt (level + 1) field.2) hfield
      refine .object hnodup (fun field hmem => exists_ofString_of_quote fun c hc => ?_)
        fun field hmem => ih field hmem (level + 1) fun c hc => ?_
      · exact hfield field hmem c (List.mem_append_left _ (List.mem_append_left _ hc))
      · exact hfield field hmem c (List.mem_append_right _ hc)

theorem mem_or_exists_of_mem_intercalate {α : Type} {separator : List α} {parts : List (List α)} {a : α}
    (ha : a ∈ List.intercalate separator parts) : a ∈ separator ∨ ∃ part ∈ parts, a ∈ part := by
  induction parts with
  | nil => cases ha
  | cons head parts ih =>
    cases parts with
    | nil => exact .inr ⟨head, List.mem_singleton_self head, by simpa using ha⟩
    | cons next parts =>
      rw [List.intercalate_cons_cons, List.mem_append, List.mem_append] at ha
      rcases ha with (hhead | hseparator) | hmore
      · exact .inr ⟨head, List.mem_cons_self, hhead⟩
      · exact .inl hseparator
      · exact (ih hmore).imp_right fun ⟨part, hpart, hmem⟩ => ⟨part, List.mem_cons_of_mem _ hpart, hmem⟩

theorem isHalf_eq_false_ofChars (text : List Char) :
    ∀ c ∈ RawText.ofChars text, c.isHalf = false := by
  simp [RawText.ofChars, CodePoint.isHalf]

theorem isHalf_eq_false_quote (s : String) :
    ∀ c ∈ quote (RawText.ofString s), c.isHalf = false := by
  intro c hc
  simp only [quote, RawText.ofString, RawText.ofChars, List.mem_append, List.mem_cons, List.mem_flatMap,
    List.mem_map, List.not_mem_nil, or_false] at hc
  obtain (rfl | ⟨_, ⟨d, -, rfl⟩, hc⟩) | rfl := hc
  · rfl
  · exact isHalf_eq_false_ofChars (escapeChar d) c hc
  · rfl

theorem isHalf_eq_false_newline (level : Nat) : ∀ c ∈ newline level, c.isHalf = false := by
  intro c hc
  rcases List.mem_cons.1 hc with rfl | hc
  · rfl
  · rw [List.eq_of_mem_replicate hc]
    rfl

theorem isHalf_eq_false_block {opening closing : Char} {level : Nat} {parts : List RawText}
    (hparts : ∀ part ∈ parts, ∀ c ∈ part, c.isHalf = false) :
    ∀ c ∈ block opening closing level parts, c.isHalf = false := by
  intro c hc
  simp only [block, List.cons_append, List.mem_cons, List.mem_append, List.not_mem_nil, or_false] at hc
  obtain rfl | ((hc | hc) | hc) | rfl := hc
  · rfl
  · exact isHalf_eq_false_newline _ c hc
  · obtain hc | ⟨part, hpart, hc⟩ := mem_or_exists_of_mem_intercalate hc
    · rcases List.mem_cons.1 hc with rfl | hc
      · rfl
      · exact isHalf_eq_false_newline _ c hc
    · exact hparts part hpart c hc
  · exact isHalf_eq_false_newline _ c hc
  · rfl

/-- Nothing but characters is written of a value in which there is nothing else. -/
theorem IsClean.isHalf_eq_false_prettyAt {v : Json} (h : v.IsClean) (level : Nat) :
    ∀ c ∈ prettyAt level v, c.isHalf = false := by
  induction h generalizing level with
  | null => exact isHalf_eq_false_ofChars _
  | bool b => cases b <;> exact isHalf_eq_false_ofChars _
  | int n => exact isHalf_eq_false_ofChars _
  | float x => exact isHalf_eq_false_ofChars _
  | string s => exact isHalf_eq_false_quote s
  | @array items _ ih =>
    cases items with
    | nil => exact isHalf_eq_false_ofChars _
    | cons first more =>
      refine isHalf_eq_false_block fun part hpart => ?_
      rw [prettyItems_eq, ← List.map_cons] at hpart
      obtain ⟨item, hitem, rfl⟩ := List.mem_map.1 hpart
      exact ih item hitem (level + 1)
  | @object fields _ hnames _ ih =>
    cases fields with
    | nil => exact isHalf_eq_false_ofChars _
    | cons first more =>
      refine isHalf_eq_false_block fun part hpart => ?_
      have hpart : part ∈ prettyFields (level + 1) (first :: more) := hpart
      rw [prettyFields_eq] at hpart
      obtain ⟨field, hfield, rfl⟩ := List.mem_map.1 hpart
      obtain ⟨s, hname⟩ := hnames field hfield
      intro c hc
      rw [hname, List.mem_append, List.mem_append] at hc
      rcases hc with (hquote | hcolon) | hvalue
      · exact isHalf_eq_false_quote s c hquote
      · exact isHalf_eq_false_ofChars _ c hcolon
      · exact ih field hfield (level + 1) c hvalue

theorem isText_array (items : List Json) : isText (.array items) = items.all isText := by
  rw [isText, every, everyItem_eq_all]

theorem isText_object (fields : List (RawText × Json)) :
    isText (.object fields) = fields.all fun field => field.1.isText && isText field.2 := by
  rw [isText, every, everyField_eq_all]

theorem IsClean.isText {v : Json} (h : v.IsClean) : v.isText = true := by
  induction h with
  | null | bool | int | float => rfl
  | string s => exact RawText.isText_ofChars s.toList
  | array _ ih => rwa [isText_array, List.all_eq_true]
  | object _ hnames _ ih =>
    rw [isText_object, List.all_eq_true]
    intro field hfield
    obtain ⟨s, hname⟩ := hnames field hfield
    rw [hname, ih field hfield, RawText.ofString, RawText.isText_ofChars]
    rfl

theorem IsTidy.isText_sortFields {v : Json} (h : v.IsTidy) : v.sortFields.isText = v.isText := by
  induction h with
  | null | bool | int | float | string => rfl
  | array _ ih =>
    rw [Json.sortFields, sortFieldsItems_eq, isText_array, isText_array, List.all_map,
      Bool.eq_iff_iff, List.all_eq_true, List.all_eq_true]
    exact forall₂_congr fun item hitem => by rw [Function.comp_apply, ih item hitem]
  | @object fields _ _ ih =>
    rw [sortFields_object, isText_object, (sorted_perm fields).all_eq, List.all_map, isText_object,
      Bool.eq_iff_iff, List.all_eq_true, List.all_eq_true]
    exact forall₂_congr fun field hfield => by rw [Function.comp_apply, ih field hfield]

end ScriptStats.Json
