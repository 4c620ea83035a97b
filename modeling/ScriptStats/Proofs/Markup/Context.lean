import ScriptStats.Proofs.Markup.NormalForm
import ScriptStats.Proofs.Markup.Removal

/-!
# Markup in its context

All markup ends with a closing bracket and begins with an opening one that no backslash escapes. A
text before which nothing opens and behind which nothing closes is therefore stripped as if it
stood alone.
-/

namespace ScriptStats.Markup

open Text

/-! ## Behind the last closing bracket -/

section After

variable {after : List Char} (hafter : '>' ∉ after)
include hafter

/-- What ends with a closing bracket ends before a text that holds none. -/
theorem append_eq_closed_iff {text inner rest : List Char} :
    text ++ after = inner ++ '>' :: rest ↔
      ∃ left, text = inner ++ '>' :: left ∧ rest = left ++ after := by
  constructor
  · intro h
    rcases List.append_eq_append_iff.1 h with ⟨more, rfl, hmore⟩ | ⟨more, rfl, hmore⟩
    · exact absurd (hmore ▸ List.mem_append_right more (List.mem_cons_self ..)) hafter
    · cases more with
      | nil =>
        have hmem : '>' ∈ after := by
          rw [← List.nil_append after, ← hmore]
          exact List.mem_cons_self ..
        exact absurd hmem hafter
      | cons c more =>
        obtain ⟨rfl, rfl⟩ := List.cons.inj hmore
        exact ⟨more, rfl, rfl⟩
  · rintro ⟨left, rfl, rfl⟩
    simp

/-- A reader of pieces that end with a closing bracket reads none of the text behind. -/
theorem read_append {α : Type} (IsPiece : α → List Char → Prop)
    {read? : List Char → Option (α × List Char)}
    (hread : ∀ {text kept rest}, read? text = some (kept, rest) ↔
      ∃ piece, IsPiece kept piece ∧ text = piece ++ rest)
    (hclosed : ∀ {kept piece}, IsPiece kept piece → ∃ inner, piece = inner ++ ['>'])
    (text : List Char) :
    read? (text ++ after) = (read? text).map (Prod.map id (· ++ after)) := by
  refine Option.ext fun ⟨kept, rest⟩ => ?_
  rw [hread, Option.map_eq_some_iff]
  constructor
  · rintro ⟨piece, hpiece, htext⟩
    obtain ⟨inner, rfl⟩ := hclosed hpiece
    rw [List.append_assoc, List.singleton_append, append_eq_closed_iff hafter] at htext
    obtain ⟨left, rfl, rfl⟩ := htext
    exact ⟨(kept, left), hread.2 ⟨_, hpiece, by simp⟩, rfl⟩
  · rintro ⟨⟨found, left⟩, hfound, heq⟩
    obtain ⟨rfl, rfl⟩ := Prod.mk.inj heq
    obtain ⟨piece, hpiece, rfl⟩ := hread.1 hfound
    exact ⟨piece, hpiece, by simp⟩

/-- As `read_append`, for readers that give nothing but what follows. -/
theorem readEnd_append (IsPiece : List Char → Prop) {read? : List Char → Option (List Char)}
    (hread : ∀ {text rest}, read? text = some rest ↔
      ∃ piece, IsPiece piece ∧ text = piece ++ rest)
    (hclosed : ∀ {piece}, IsPiece piece → ∃ inner, piece = inner ++ ['>'])
    (text : List Char) : read? (text ++ after) = (read? text).map (· ++ after) := by
  let readPair? (text : List Char) : Option (Unit × List Char) := (read? text).map ((), ·)
  have hpair {text rest : List Char} (kept : Unit) : readPair? text = some (kept, rest) ↔
      ∃ piece, IsPiece piece ∧ text = piece ++ rest := by
    simp [readPair?, hread]
  have hpairs := read_append hafter (fun _ => IsPiece) (hpair _) hclosed text
  have hends := congrArg (Option.map Prod.snd) hpairs
  simpa [readPair?, Function.comp_def] using hends

/-! ### Tags -/

theorem tagEnd?_append_after (text : List Char) :
    tagEnd? (text ++ after) = (tagEnd? text).map (· ++ after) := by
  refine readEnd_append hafter TagEnd tagEnd?_eq_some_iff ?_ text
  rintro _ ⟨blanks, -, rfl⟩
  exact ⟨blanks, rfl⟩

theorem quotedEnd?_append_after (text : List Char) :
    quotedEnd? (text ++ after) = (quotedEnd? text).map (· ++ after) := by
  refine readEnd_append hafter (fun piece => ∃ quote inner close,
    (quote = '"' ∨ quote = '\'') ∧ quote ∉ inner ∧ TagEnd close ∧
      piece = quote :: (inner ++ quote :: close)) ?_ ?_ text
  · intro text rest
    rw [quotedEnd?_eq_some_iff]
    constructor
    · rintro ⟨quote, inner, close, hq, hi, hc, rfl⟩
      exact ⟨_, ⟨quote, inner, close, hq, hi, hc, rfl⟩, by simp⟩
    · rintro ⟨_, ⟨quote, inner, close, hq, hi, hc, rfl⟩, rfl⟩
      exact ⟨quote, inner, close, hq, hi, hc, by simp⟩
  · rintro _ ⟨quote, inner, _, -, -, ⟨blanks, -, rfl⟩, rfl⟩
    exact ⟨quote :: (inner ++ quote :: blanks), by simp⟩

theorem bareEnd?_append_after (text : List Char) :
    bareEnd? (text ++ after) = (bareEnd? text).map (· ++ after) := by
  refine readEnd_append hafter (fun piece => ∃ value,
    (∀ c ∈ value, c ≠ '<' ∧ c ≠ '>') ∧ piece = value ++ ['>']) ?_ ?_ text
  · intro text rest
    rw [bareEnd?_eq_some_iff]
    constructor
    · rintro ⟨value, hv, rfl⟩
      exact ⟨_, ⟨value, hv, rfl⟩, by simp⟩
    · rintro ⟨_, ⟨value, hv, rfl⟩, rfl⟩
      exact ⟨value, hv, by simp⟩
  · rintro _ ⟨value, -, rfl⟩
    exact ⟨value, rfl⟩

theorem valueEnds_append_after (text : List Char) :
    valueEnds (text ++ after) = (valueEnds text).map (· ++ after) := by
  rw [valueEnds, valueEnds, quotedEnd?_append_after hafter, bareEnd?_append_after hafter,
    List.map_append, Option.toList_map, Option.toList_map]

/-! ### Blanks before a part of a tag -/

omit hafter in
theorem skipBlank_append_of_eq_nil {text : List Char} (h : skipBlank text = [])
    (after : List Char) : skipBlank (text ++ after) = skipBlank after := by
  unfold skipBlank at h ⊢
  rw [List.dropWhile_append, h, List.isEmpty_nil, if_pos rfl]

omit hafter in
theorem skipBlank_append_of_eq_cons {text rest : List Char} {c : Char}
    (h : skipBlank text = c :: rest) (after : List Char) :
    skipBlank (text ++ after) = c :: (rest ++ after) := by
  unfold skipBlank at h ⊢
  rw [List.dropWhile_append, h, List.isEmpty_cons, if_neg Bool.false_ne_true, List.cons_append]

theorem tagEnd?_eq_none : tagEnd? after = none := by
  refine Option.eq_none_iff_forall_ne_some.2 fun rest hrest => hafter ?_
  exact (tagEnd?_suffix hrest).subset (List.mem_cons_self ..)

theorem valueEnds_eq_nil : valueEnds after = [] := by
  refine List.eq_nil_iff_forall_not_mem.2 fun rest hrest => hafter ?_
  exact (suffix_of_mem_valueEnds hrest).subset (List.mem_cons_self ..)

theorem assignmentEnds_eq_nil : assignmentEnds after = [] := by
  refine List.eq_nil_iff_forall_not_mem.2 fun rest hrest => hafter ?_
  exact (suffix_of_mem_assignmentEnds hrest).subset (List.mem_cons_self ..)

theorem valueEnds_skipBlank_append_after (text : List Char) :
    valueEnds (skipBlank (text ++ after)) = (valueEnds (skipBlank text)).map (· ++ after) := by
  cases htext : skipBlank text with
  | nil =>
    have hskipped : '>' ∉ skipBlank after := fun hmem =>
      hafter ((skipBlank_suffix after).subset hmem)
    rw [skipBlank_append_of_eq_nil htext, valueEnds_eq_nil hskipped,
      valueEnds_eq_nil List.not_mem_nil, List.map_nil]
  | cons c rest =>
    rw [skipBlank_append_of_eq_cons htext, ← List.cons_append, valueEnds_append_after hafter]

theorem assignmentEnds_append_after (text : List Char) :
    assignmentEnds (text ++ after) = (assignmentEnds text).map (· ++ after) := by
  cases htext : skipBlank text with
  | nil =>
    -- The equals sign would have to come from behind the text.
    have hsame : assignmentEnds (text ++ after) = assignmentEnds after := by
      rw [assignmentEnds, assignmentEnds, skipBlank_append_of_eq_nil htext]
    have hnone : assignmentEnds text = [] := by rw [assignmentEnds, htext]
    rw [hsame, assignmentEnds_eq_nil hafter, hnone, List.map_nil]
  | cons c rest =>
    rw [assignmentEnds, assignmentEnds, skipBlank_append_of_eq_cons htext, htext]
    by_cases hc : c = '='
    · subst hc
      exact valueEnds_skipBlank_append_after hafter rest
    · simp [hc]

theorem openEnds_eq_nil : Format.openEnds after = [] := by
  refine List.eq_nil_iff_forall_not_mem.2 fun rest hrest => hafter ?_
  exact (Format.suffix_of_mem_openEnds hrest).subset (List.mem_cons_self ..)

theorem openEnds_append_after (text : List Char) :
    Format.openEnds (text ++ after) = (Format.openEnds text).map (· ++ after) := by
  rw [Format.openEnds, Format.openEnds, assignmentEnds_append_after hafter,
    tagEnd?_append_after hafter, List.map_append, Option.toList_map]

/-! ### Elements -/

theorem Ruby.body?_append_after (text : List Char) :
    Ruby.body? (text ++ after) = (Ruby.body? text).map (Prod.map id (· ++ after)) := by
  refine read_append hafter (fun base piece => ∃ close,
    Ruby.HoldsNoTag base ∧ ClosingTag Ruby.name close ∧ piece = base ++ close) ?_ ?_ text
  · intro text base rest
    rw [Ruby.body?_eq_some_iff]
    constructor
    · rintro ⟨close, hb, hc, rfl⟩
      exact ⟨_, ⟨close, hb, hc, rfl⟩, by simp⟩
    · rintro ⟨_, ⟨close, hb, hc, rfl⟩, rfl⟩
      exact ⟨close, hb, hc, by simp⟩
  · rintro base _ ⟨_, -, ⟨spelled, _, -, ⟨blanks, -, rfl⟩, rfl⟩, rfl⟩
    exact ⟨base ++ '<' :: '/' :: (spelled ++ blanks), by simp⟩

theorem Format.body?_append_after {name opened : List Char} (hn : name ∈ Format.names)
    (ho : Spells name opened) (text : List Char) :
    Format.body? opened (text ++ after) =
      (Format.body? opened text).map (Prod.map id (· ++ after)) := by
  refine read_append hafter (fun inner piece => ∃ close,
    Format.HoldsNoTag inner ∧ Format.PairClose opened close ∧ piece = inner ++ close) ?_ ?_ text
  · intro text inner rest
    rw [Format.body?_eq_some_iff hn ho]
    constructor
    · rintro ⟨close, hi, hc, rfl⟩
      exact ⟨_, ⟨close, hi, hc, rfl⟩, by simp⟩
    · rintro ⟨_, ⟨close, hi, hc, rfl⟩, rfl⟩
      exact ⟨close, hi, hc, by simp⟩
  · rintro inner _ ⟨_, -, ⟨again, _, -, ⟨blanks, -, rfl⟩, rfl⟩, rfl⟩
    exact ⟨inner ++ '<' :: '/' :: (again ++ blanks), by simp⟩

/-! ### Names -/

omit hafter in
/-- A word that is not read from a text is read, if at all, up to a place behind it. -/
theorem suffix_of_word?_append {word text after rest : List Char} (h : word? word text = none)
    (hrest : word? word (text ++ after) = some rest) : rest <:+ after := by
  fun_induction word? word text with
  | case1 => cases h
  | case2 => exact word?_suffix hrest
  | case3 letter word c text hc ih =>
    rw [List.cons_append, word?, if_pos hc] at hrest
    exact ih h hrest
  | case4 letter word c text hc =>
    rw [List.cons_append, word?, if_neg hc] at hrest
    cases hrest

/-- A part of an element behind its name that needs a closing bracket does not see the text behind,
and so the name and the part together do not. -/
theorem word?_bind_append_after {α : Type} (word : List Char)
    (read? : List Char → List Char → Option (α × List Char))
    (happend : ∀ spelled, Spells word spelled → ∀ text,
      read? spelled (text ++ after) = (read? spelled text).map (Prod.map id (· ++ after)))
    (hnone : ∀ spelled text, '>' ∉ text → read? spelled text = none) (text : List Char) :
    (word? word (text ++ after)).bind (read? ((text ++ after).take word.length)) =
      ((word? word text).bind (read? (text.take word.length))).map
        (Prod.map id (· ++ after)) := by
  cases hword : word? word text with
  | some tag =>
    obtain ⟨spelled, hs, rfl⟩ := word?_eq_some_iff.1 hword
    rw [List.append_assoc, word?_append hs, hs.length_eq, List.take_left' rfl, List.take_left' rfl]
    exact happend spelled hs tag
  | none =>
    cases hmore : word? word (text ++ after) with
    | none => rfl
    | some rest =>
      have hsuffix := suffix_of_word?_append hword hmore
      exact hnone _ rest fun hmem => hafter (hsuffix.subset hmem)

omit hafter in
theorem findSome?_map_append {α : Type} {read? : List Char → Option (α × List Char)}
    (happend : ∀ text, read? (text ++ after) = (read? text).map (Prod.map id (· ++ after)))
    (ends : List (List Char)) :
    (ends.map (· ++ after)).findSome? read? =
      (ends.findSome? read?).map (Prod.map id (· ++ after)) := by
  rw [List.findSome?_map, List.map_findSome?]
  exact congrArg (ends.findSome? ·) (funext happend)

theorem Ruby.find_append_after (text : List Char) :
    Ruby.find ('<' :: (text ++ after)) =
      (Ruby.find ('<' :: text)).map (Prod.map id (· ++ after)) := by
  refine word?_bind_append_after hafter Ruby.name
    (fun _ tag => (assignmentEnds tag).findSome? Ruby.body?) ?_ ?_ text
  · intro _ _ tag
    rw [assignmentEnds_append_after hafter]
    exact findSome?_map_append (Ruby.body?_append_after hafter) _
  · intro _ tag htag
    rw [assignmentEnds_eq_nil htag, List.findSome?_nil]

omit hafter in
theorem findSome?_congr {α β : Type} {f g : α → Option β} {items : List α}
    (h : ∀ item ∈ items, f item = g item) : items.findSome? f = items.findSome? g := by
  induction items with
  | nil => rfl
  | cons item items ih =>
    rw [List.forall_mem_cons] at h
    rw [List.findSome?_cons, List.findSome?_cons, h.1, ih h.2]

theorem Format.find_append_after (text : List Char) :
    Format.find ('<' :: (text ++ after)) =
      (Format.find ('<' :: text)).map (Prod.map id (· ++ after)) := by
  simp only [Format.find, List.map_findSome?]
  refine findSome?_congr fun name hn => ?_
  refine word?_bind_append_after hafter name
    (fun opened tag => (Format.openEnds tag).findSome? (Format.body? opened)) ?_ ?_ text
  · intro opened ho tag
    rw [openEnds_append_after hafter]
    exact findSome?_map_append (Format.body?_append_after hafter hn ho) _
  · intro opened tag htag
    rw [openEnds_eq_nil htag, List.findSome?_nil]

namespace LineBreak

omit hafter in
/-- What is read of a line break behind its name. -/
def slashEnd? (tag : List Char) : Option (List Char × List Char) :=
  match skipBlank tag with
  | '/' :: tag => (tagEnd? tag).map ([], ·)
  | tag => (tagEnd? tag).map ([], ·)

theorem slashEnd?_eq_none : slashEnd? after = none := by
  have hskipped : '>' ∉ skipBlank after := fun hmem =>
    hafter ((skipBlank_suffix after).subset hmem)
  unfold slashEnd?
  split
  next tag htag =>
    have htail : '>' ∉ tag := fun hmem => hskipped (htag ▸ List.mem_cons_of_mem _ hmem)
    rw [tagEnd?_eq_none htail, Option.map_none]
  next => rw [tagEnd?_eq_none hskipped, Option.map_none]

theorem slashEnd?_append_after (tag : List Char) :
    slashEnd? (tag ++ after) = (slashEnd? tag).map (Prod.map id (· ++ after)) := by
  cases htag : skipBlank tag with
  | nil =>
    have hsame : slashEnd? (tag ++ after) = slashEnd? after := by
      rw [slashEnd?, slashEnd?, skipBlank_append_of_eq_nil htag]
    have hnone : slashEnd? tag = none := by
      rw [slashEnd?, htag]
      rfl
    rw [hsame, slashEnd?_eq_none hafter, hnone, Option.map_none]
  | cons c rest =>
    rw [slashEnd?, slashEnd?, skipBlank_append_of_eq_cons htag, htag]
    by_cases hc : c = '/'
    · subst hc
      simp [tagEnd?_append_after hafter, Function.comp_def]
    · have hend := tagEnd?_append_after hafter (c :: rest)
      rw [List.cons_append] at hend
      simp [hc, hend, Function.comp_def]

theorem find_append_after (text : List Char) :
    find ('<' :: (text ++ after)) = (find ('<' :: text)).map (Prod.map id (· ++ after)) :=
  word?_bind_append_after hafter ['b', 'r'] (fun _ => slashEnd?)
    (fun _ _ => slashEnd?_append_after hafter) (fun _ _ => slashEnd?_eq_none) text

end LineBreak

end After

/-! ## What is stripped -/

namespace Construct

/-- A construct that ends with a closing bracket and reads nothing behind it. -/
structure Bracketed (construct : Construct) (kind : Kind) : Prop extends Finds construct kind where
  closed : ∀ {text}, '>' ∉ text → construct.find text = none
  append : ∀ {after}, '>' ∉ after → ∀ text,
    construct.find ('<' :: (text ++ after)) =
      (construct.find ('<' :: text)).map (Prod.map id (· ++ after))

namespace Bracketed

variable {construct : Construct} {kind : Kind} (h : construct.Bracketed kind)
include h

theorem find_append {after : List Char} (hafter : '>' ∉ after) (text : List Char) :
    construct.find (text ++ after) = (construct.find text).map (Prod.map id (· ++ after)) := by
  cases text with
  | nil => rw [List.nil_append, h.closed hafter, h.closed List.not_mem_nil, Option.map_none]
  | cons c text =>
    by_cases hc : c = '<'
    · subst hc
      exact h.append hafter text
    · rw [List.cons_append, h.other hc, h.other hc, Option.map_none]

theorem strip_closed {text : List Char} (htext : '>' ∉ text) : construct.strip text = text := by
  induction text with
  | nil => rw [strip]
  | cons c text ih =>
    rw [strip_of_none (h.closed htext), ih fun hmem => htext (List.mem_cons_of_mem c hmem)]

theorem strip_append {after : List Char} (hafter : '>' ∉ after) (text : List Char) :
    construct.strip (text ++ after) = construct.strip text ++ after := by
  fun_induction construct.strip text with
  | case1 => exact h.strip_closed hafter
  | case2 c text kept rest hfound ih =>
    have hmore := h.find_append hafter (c :: text)
    rw [hfound, Option.map_some] at hmore
    rw [strip_of_some hmore, ih, id, List.append_assoc]
  | case3 c text hnone ih =>
    have hmore := h.find_append hafter (c :: text)
    rw [hnone, Option.map_none, List.cons_append] at hmore
    rw [List.cons_append, strip_of_none hmore, ih, List.cons_append]

end Bracketed

end Construct

theorem bracketed_ruby : ruby.Bracketed .ruby where
  toFinds := finds_ruby
  closed := by
    intro text htext
    refine Option.eq_none_iff_forall_ne_some.2 fun ⟨base, rest⟩ hfound => htext ?_
    obtain ⟨_, ⟨_, _, _, -, -, -, ⟨_, _, -, ⟨_, -, rfl⟩, rfl⟩, rfl⟩, rfl⟩ :=
      Ruby.element_of_find hfound
    simp
  append := Ruby.find_append_after

theorem bracketed_lineBreak : lineBreak.Bracketed .lineBreak where
  toFinds := finds_lineBreak
  closed := by
    intro text htext
    refine Option.eq_none_iff_forall_ne_some.2 fun ⟨kept, rest⟩ hfound => htext ?_
    obtain ⟨-, _, ⟨_, _, _, -, ⟨_, -, rfl⟩, -, rfl⟩, rfl⟩ := LineBreak.element_of_find hfound
    simp
  append := LineBreak.find_append_after

theorem bracketed_format : format.Bracketed .format where
  toFinds := finds_format
  closed := by
    intro text htext
    refine Option.eq_none_iff_forall_ne_some.2 fun ⟨inner, rest⟩ hfound => htext ?_
    obtain ⟨_, ⟨_, -, _, _, _, -, -, -, ⟨_, _, -, ⟨_, -, rfl⟩, rfl⟩, rfl⟩, rfl⟩ :=
      Format.pair_of_find hfound
    simp
  append := Format.find_append_after

namespace Command

section After

variable {after : List Char} (hafter : ']' ∉ after)
include hafter

theorem close?_eq_none (escaped : Bool) : close? escaped after = none := by
  refine Option.eq_none_iff_forall_ne_some.2 fun rest hrest => hafter ?_
  exact (close?_suffix hrest).subset (List.mem_cons_self ..)

theorem close?_append (escaped : Bool) (text : List Char) :
    close? escaped (text ++ after) = (close? escaped text).map (· ++ after) := by
  fun_induction close? escaped text with
  | case1 escaped => exact close?_eq_none hafter escaped
  | case2 => simp [close?]
  | case3 => simp [close?]
  | case4 => simp_all [close?]
  | case5 escaped c text hopen hclose ih =>
    rw [List.cons_append, close?, if_neg hopen, if_neg hclose, ih]

theorem stripFrom_closed (escaped : Bool) : stripFrom escaped after = after := by
  refine stripFrom_eq_self_iff.2 ?_
  rintro ⟨start, _, rfl, body, more, rfl, -⟩
  simp at hafter

theorem stripFrom_append (escaped : Bool) (text : List Char) :
    stripFrom escaped (text ++ after) = stripFrom escaped text ++ after := by
  fun_induction stripFrom escaped text with
  | case1 escaped => exact stripFrom_closed hafter escaped
  | case2 escaped c text hopen rest hrest ih =>
    have hmore := close?_append hafter false text
    rw [hrest, Option.map_some] at hmore
    rw [List.cons_append, stripFrom, if_pos hopen]
    split
    next left hleft =>
      rw [hmore] at hleft
      obtain rfl := Option.some_inj.1 hleft
      exact ih
    next hnone => rw [hmore] at hnone; cases hnone
  | case3 escaped c text hopen hnone ih =>
    have hmore := close?_append hafter false text
    rw [hnone, Option.map_none] at hmore
    rw [List.cons_append, stripFrom, if_pos hopen]
    split
    next left hleft => rw [hmore] at hleft; cases hleft
    next => rw [ih, List.cons_append]
  | case4 escaped c text hopen ih =>
    rw [List.cons_append, stripFrom, if_neg hopen, ih, List.cons_append]

end After

end Command

/-! ## Texts that open nothing before and close nothing behind -/

/-- A text between two others that can neither begin nor end any of its markup. -/
structure Apart (before after : List Char) : Prop where
  opens_none : '<' ∉ before ∧ '[' ∉ before
  not_escaping : before.getLast? ≠ some '\\'
  closes_none : '>' ∉ after ∧ ']' ∉ after

section Apart

variable {before after : List Char} (h : Apart before after)
include h

theorem Construct.Bracketed.strip_between {construct : Construct} {kind : Kind}
    (hconstruct : construct.Bracketed kind) (text : List Char) :
    construct.strip (before ++ (text ++ after)) = before ++ (construct.strip text ++ after) := by
  have hbracket : ∀ c ∈ before, c ≠ '<' := fun c hc heq => h.opens_none.1 (heq ▸ hc)
  rw [hconstruct.strip_plain hbracket, hconstruct.strip_append h.closes_none.1]

theorem strip_between (kind : Kind) (text : List Char) :
    strip kind (before ++ (text ++ after)) = before ++ (strip kind text ++ after) := by
  cases kind with
  | ruby => exact bracketed_ruby.strip_between h text
  | lineBreak => exact bracketed_lineBreak.strip_between h text
  | command =>
    have hbracket : ∀ c ∈ before, c ≠ '[' := fun c hc heq => h.opens_none.2 (heq ▸ hc)
    have hescaped : Command.escapedAfter false before = false := by
      unfold Command.escapedAfter
      cases hlast : before.getLast? with
      | none => rfl
      | some c => simpa using fun heq : c = '\\' => h.not_escaping (heq ▸ hlast)
    change Command.stripFrom false _ = _
    rw [Command.stripFrom_plain hbracket, hescaped, Command.stripFrom_append h.closes_none.2]
    rfl
  | format => exact bracketed_format.strip_between h text

theorem pass_between (text : List Char) :
    pass (before ++ (text ++ after)) = before ++ (pass text ++ after) := by
  simp only [pass, strip_between h]

end Apart

/-- Normalizing goes with whatever goes with one pass and makes no text shorter than another. -/
theorem normalize_comm {f : List Char → List Char} (hpass : ∀ text, pass (f text) = f (pass text))
    (hlength : ∀ text, (f (pass text)).length < (f text).length ↔
      (pass text).length < text.length) (text : List Char) :
    normalize (f text) = f (normalize text) := by
  fun_induction normalize text with
  | case1 text hlt ih => rw [normalize, hpass, if_pos ((hlength text).2 hlt), ih]
  | case2 text hle => rw [normalize, hpass, if_neg (mt (hlength text).1 hle)]

section Apart

variable {before after : List Char} (h : Apart before after)
include h

theorem normalize_between (text : List Char) :
    normalize (before ++ (text ++ after)) = before ++ (normalize text ++ after) := by
  refine normalize_comm (f := fun text => before ++ (text ++ after)) (pass_between h) ?_ text
  intro text
  simp

/-- Around a text the loop makes the passes that it makes on the text alone. -/
theorem Settles.between {text final : List Char} {passes : Nat}
    (hsettles : Settles text passes final) :
    Settles (before ++ (text ++ after)) passes (before ++ (final ++ after)) := by
  induction hsettles with
  | still hpass => exact .still (by rw [pass_between h, hpass])
  | @again text passes final hpass _ ih =>
    rw [← pass_between h] at ih
    refine .again (fun heq => hpass ?_) ih
    rw [pass_between h, List.append_cancel_left_eq, List.append_cancel_right_eq] at heq
    exact heq

/-- No markup of a text reaches out of it if nothing opens or escapes before it and nothing closes
behind it. Each step leaves what stands around the text as it is and does with the text what it does
with the text alone, and so do all passes together, which are as many. -/
theorem normalize_stays_between (text : List Char) :
    (∀ kind, strip kind (before ++ (text ++ after)) = before ++ (strip kind text ++ after)) ∧
      (∃ passes ≤ text.length + 1, Settles text passes (normalize text) ∧
        Settles (before ++ (text ++ after)) passes (before ++ (normalize text ++ after))) ∧
      normalize (before ++ (text ++ after)) = before ++ (normalize text ++ after) := by
  obtain ⟨passes, hpasses, hsettles⟩ := settles_normalize text
  exact ⟨fun kind => strip_between h kind text, ⟨passes, hpasses, hsettles, hsettles.between h⟩,
    normalize_between h text⟩

end Apart

/-- Brackets and quotes that stay open in the text find no end behind it, and none before it is
closed in it. -/
theorem normalize_stays_between_open :
    Apart "> ]'a\\ ".toList "\" <br [b".toList ∧
      normalize ("> ]'a\\ ".toList ++ ("]<b[i]r>x[</b><ruby=\"".toList ++ "\" <br [b".toList)) =
        "> ]'a\\ ]x[</b><ruby=\"\" <br [b".toList := by
  have h : Apart "> ]'a\\ ".toList "\" <br [b".toList := by
    refine ⟨⟨?_, ?_⟩, ?_, ?_, ?_⟩ <;> decide
  have hnormal : normalize "]<b[i]r>x[</b><ruby=\"".toList = "]x[</b><ruby=\"".toList := by
    decide +kernel
  refine ⟨h, ?_⟩
  rw [(normalize_stays_between h _).2.2, hnormal]
  rfl

end ScriptStats.Markup
