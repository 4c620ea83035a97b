import Mathlib.Data.List.Forall2
import ScriptStats.Markup.LineBreak
import ScriptStats.Markup.Ruby
import ScriptStats.Proofs.Markup.Tag

/-!
# Ruby elements and line breaks

The grammar of the two kinds of markup that bear a fixed name. `Ruby.find` and `LineBreak.find`
take just these elements from the front of a text.
-/

namespace ScriptStats.Markup

open Text

/-- The closing tag of a name that is written as in `word`. -/
def ClosingTag (word text : List Char) : Prop :=
  ∃ spelled close, Spells word spelled ∧ TagEnd close ∧ text = '<' :: '/' :: (spelled ++ close)

/-! ## An angle bracket is never inside a tag -/

theorem bracket_notMem_spelled {word spelled : List Char} (hs : Spells word spelled)
    (hw : ∀ letter ∈ word, sameLetter letter '<' = false) : '<' ∉ spelled := by
  induction hs with
  | nil => simp
  | cons hc _ ih =>
    simp only [List.mem_cons, forall_eq_or_imp] at hw
    simp only [List.mem_cons, not_or]
    refine ⟨?_, ih hw.2⟩
    rintro rfl
    rw [hw.1] at hc
    cases hc

theorem bracket_notMem_tagEnd {close : List Char} (hc : TagEnd close) : '<' ∉ close := by
  obtain ⟨blanks, hb, rfl⟩ := hc
  simp only [List.mem_append, List.mem_singleton, not_or]
  exact ⟨fun h => ne_of_isBlank (hb _ h) (by decide) rfl, by decide⟩

/-- A tag does not reach beyond the next angle bracket. -/
theorem prefix_of_prefix_append_bracket {tag text rest : List Char} (htag : '<' ∉ tag)
    (h : tag <+: text ++ '<' :: rest) : tag <+: text := by
  obtain ⟨more, h⟩ := h
  rcases List.append_eq_append_iff.1 h with ⟨after, rfl, -⟩ | ⟨extra, rfl, hextra⟩
  · exact List.prefix_append tag after
  · cases extra with
    | nil => simp
    | cons c extra =>
      obtain ⟨rfl, -⟩ := List.cons.inj hextra
      simp at htag

/-- What a tag is followed by is the same whether the text ends before an angle bracket or goes on,
if only the bracket may follow the tag. -/
theorem exists_append_bracket_iff {P : Char → Prop} (hP : P '<') {tag text : List Char}
    (htag : '<' ∉ tag) (rest : List Char) :
    (∃ after, (∀ c ∈ after.head?, P c) ∧ text ++ '<' :: rest = tag ++ after) ↔
      ∃ after, (∀ c ∈ after.head?, P c) ∧ text = tag ++ after := by
  constructor
  · rintro ⟨after, ha, h⟩
    obtain ⟨more, rfl⟩ := prefix_of_prefix_append_bracket htag ⟨after, h.symm⟩
    rw [List.append_assoc, List.append_cancel_left_eq] at h
    refine ⟨more, ?_, rfl⟩
    cases more with
    | nil => simp
    | cons d more => simpa [← h] using ha
  · rintro ⟨after, ha, rfl⟩
    refine ⟨after ++ '<' :: rest, ?_, by simp⟩
    cases after with
    | nil => simpa using hP
    | cons d after => simpa using ha

theorem bracket_notMem_closingTag {word spelled close : List Char} (hs : Spells word spelled)
    (hc : TagEnd close) (hw : ∀ letter ∈ word, sameLetter letter '<' = false) :
    '<' ∉ '/' :: (spelled ++ close) := by
  simp only [List.mem_cons, List.mem_append, not_or]
  exact ⟨by decide, bracket_notMem_spelled hs hw, bracket_notMem_tagEnd hc⟩

/-! ## Enclosed texts -/

section Enclosed

variable {close? : List Char → Option (List Char)} {begins : List Char → Bool}

/-- Wherever the enclosed text is not yet over, neither reader takes what it sees. -/
def StaysOpen (close? : List Char → Option (List Char)) (begins : List Char → Bool)
    (kept tail : List Char) : Prop :=
  ∀ c text, c :: text <:+ kept →
    close? (c :: (text ++ tail)) = none ∧ begins (c :: (text ++ tail)) = false

theorem staysOpen_cons {c : Char} {kept tail : List Char} :
    StaysOpen close? begins (c :: kept) tail ↔
      (close? (c :: (kept ++ tail)) = none ∧ begins (c :: (kept ++ tail)) = false) ∧
        StaysOpen close? begins kept tail := by
  constructor
  · intro h
    exact ⟨h c kept List.suffix_rfl,
      fun d text hd => h d text (hd.trans (List.suffix_cons c kept))⟩
  · rintro ⟨hc, h⟩ d text hd
    rcases List.suffix_cons_iff.1 hd with heq | hd
    · obtain ⟨rfl, rfl⟩ := List.cons.inj heq
      exact hc
    · exact h d text hd

theorem enclosed?_append {kept tail rest : List Char} (hne : tail ≠ [])
    (hclose : close? tail = some rest) (h : StaysOpen close? begins kept tail) :
    enclosed? close? begins (kept ++ tail) = some (kept, rest) := by
  induction kept with
  | nil =>
    cases tail with
    | nil => exact absurd rfl hne
    | cons c tail => rw [List.nil_append, enclosed?, hclose]
  | cons c kept ih =>
    obtain ⟨⟨hnone, hbegins⟩, h⟩ := staysOpen_cons.1 h
    simp only [List.cons_append, enclosed?, hnone, hbegins, ih h]
    rfl

theorem enclosed?_eq_some {text kept rest : List Char}
    (h : enclosed? close? begins text = some (kept, rest)) :
    ∃ tail, text = kept ++ tail ∧ close? tail = some rest ∧
      StaysOpen close? begins kept tail := by
  fun_induction enclosed? close? begins text generalizing kept with
  | case1 => simp at h
  | case2 c text left hleft =>
    obtain ⟨rfl, rfl⟩ := Prod.mk.inj (Option.some.inj h)
    exact ⟨c :: text, rfl, hleft, fun d more hd => by simp at hd⟩
  | case3 => simp at h
  | case4 c text hnone hbegins ih =>
    obtain ⟨⟨inner, left⟩, hinner, heq⟩ := Option.map_eq_some_iff.1 h
    obtain ⟨rfl, rfl⟩ := Prod.mk.inj heq
    obtain ⟨tail, rfl, hclose, hopen⟩ := ih hinner
    exact ⟨tail, rfl, hclose, staysOpen_cons.2 ⟨⟨hnone, by simpa using hbegins⟩, hopen⟩⟩

end Enclosed

/-! ## Ruby elements -/

namespace Ruby

/-- A ruby tag that opens begins here: its name does not go on. -/
def Opening (text : List Char) : Prop :=
  ∃ spelled rest, Spells name spelled ∧ (∀ c ∈ rest.head?, isWordChar c = false) ∧
    text = '<' :: (spelled ++ rest)

/-- No ruby tag begins inside the text. -/
def HoldsNoTag (text : List Char) : Prop :=
  ∀ rest, rest <:+ text → ¬ Opening rest ∧ ∀ close, ClosingTag name close → ¬ close <+: rest

/-- A ruby element that leaves its base behind. -/
def Element (element base : List Char) : Prop :=
  ∃ spelled assignment close, Spells name spelled ∧ Assignment assignment ∧ HoldsNoTag base ∧
    ClosingTag name close ∧ element = '<' :: (spelled ++ (assignment ++ (base ++ close)))

theorem name_ne_bracket : ∀ letter ∈ name, sameLetter letter '<' = false := by
  simp [name, sameLetter]

theorem opens_eq_true_iff {text : List Char} : opens text = true ↔ Opening text := by
  unfold opens Opening
  constructor
  · intro h
    split at h
    next text =>
      split at h
      next c rest hword =>
        obtain ⟨spelled, hs, rfl⟩ := word?_eq_some_iff.1 hword
        exact ⟨spelled, c :: rest, hs, by simpa using h, rfl⟩
      next hword =>
        obtain ⟨spelled, hs, rfl⟩ := word?_eq_some_iff.1 hword
        exact ⟨spelled, [], hs, by simp, rfl⟩
      next => simp at h
    next => simp at h
  · rintro ⟨spelled, rest, hs, hr, rfl⟩
    simp only [word?_append hs]
    cases rest with
    | nil => rfl
    | cons c rest => simpa using hr

theorem close?_eq_some_iff {text rest : List Char} :
    close? text = some rest ↔ ∃ close, ClosingTag name close ∧ text = close ++ rest := by
  unfold close?
  constructor
  · intro h
    split at h
    next text =>
      obtain ⟨tag, htag, hend⟩ := Option.bind_eq_some_iff.1 h
      obtain ⟨spelled, hs, rfl⟩ := word?_eq_some_iff.1 htag
      obtain ⟨close, hc, rfl⟩ := tagEnd?_eq_some_iff.1 hend
      exact ⟨_, ⟨spelled, close, hs, hc, rfl⟩, by simp⟩
    next => simp at h
  · rintro ⟨_, ⟨spelled, close, hs, hc, rfl⟩, rfl⟩
    simp [word?_append hs, tagEnd?_append hc]

/-- What follows the next angle bracket does not decide whether a tag begins before it. -/
theorem opens_append_bracket (c : Char) (text rest : List Char) :
    opens (c :: (text ++ '<' :: rest)) = opens (c :: text) := by
  rw [Bool.eq_iff_iff, opens_eq_true_iff, opens_eq_true_iff]
  have hbracket : isWordChar '<' = false := by decide
  simp only [Opening, List.cons.injEq]
  constructor
  · rintro ⟨spelled, after, hs, ha, hc, h⟩
    obtain ⟨more, hm, rfl⟩ := (exists_append_bracket_iff hbracket
      (bracket_notMem_spelled hs name_ne_bracket) rest).1 ⟨after, ha, h⟩
    exact ⟨spelled, more, hs, hm, hc, rfl⟩
  · rintro ⟨spelled, after, hs, ha, hc, h⟩
    obtain ⟨more, hm, h⟩ := (exists_append_bracket_iff hbracket
      (bracket_notMem_spelled hs name_ne_bracket) rest).2 ⟨after, ha, h⟩
    exact ⟨spelled, more, hs, hm, hc, h⟩

theorem close?_append_bracket_eq_none_iff {c : Char} {text rest : List Char} :
    close? (c :: (text ++ '<' :: rest)) = none ↔
      ∀ close, ClosingTag name close → ¬ close <+: c :: text := by
  constructor
  · rintro h close hc ⟨more, hmore⟩
    have htaken : close? (close ++ (more ++ '<' :: rest)) = some (more ++ '<' :: rest) :=
      close?_eq_some_iff.2 ⟨close, hc, rfl⟩
    rw [← List.append_assoc, hmore, List.cons_append, h] at htaken
    cases htaken
  · intro h
    refine Option.eq_none_iff_forall_ne_some.2 fun left hleft => ?_
    obtain ⟨_, ⟨spelled, close, hs, hc, rfl⟩, heq⟩ := close?_eq_some_iff.1 hleft
    obtain ⟨rfl, htail⟩ := List.cons.inj heq
    have hin := prefix_of_prefix_append_bracket (bracket_notMem_closingTag hs hc name_ne_bracket)
      ⟨left, htail.symm⟩
    exact h _ ⟨spelled, close, hs, hc, rfl⟩ (List.cons_prefix_cons.2 ⟨rfl, hin⟩)

theorem not_opening_nil : ¬ Opening [] := by
  rintro ⟨spelled, rest, -, -, h⟩
  cases h

theorem not_closingTag_nil {word : List Char} : ¬ ClosingTag word [] := by
  rintro ⟨spelled, close, -, -, h⟩
  cases h

theorem staysOpen_iff {base rest : List Char} :
    StaysOpen close? opens base ('<' :: rest) ↔ HoldsNoTag base := by
  constructor
  · intro h text htext
    cases text with
    | nil =>
      refine ⟨not_opening_nil, fun close hc hp => not_closingTag_nil (List.prefix_nil.1 hp ▸ hc)⟩
    | cons c text =>
      obtain ⟨hnone, hopens⟩ := h c text htext
      rw [opens_append_bracket, ← Bool.not_eq_true, opens_eq_true_iff] at hopens
      exact ⟨hopens, close?_append_bracket_eq_none_iff.1 hnone⟩
  · intro h c text htext
    obtain ⟨hopens, hclose⟩ := h (c :: text) htext
    rw [← opens_eq_true_iff, Bool.not_eq_true] at hopens
    exact ⟨close?_append_bracket_eq_none_iff.2 hclose, by rwa [opens_append_bracket]⟩

theorem body?_eq_some_iff {text base rest : List Char} :
    body? text = some (base, rest) ↔
      ∃ close, HoldsNoTag base ∧ ClosingTag name close ∧ text = base ++ (close ++ rest) := by
  constructor
  · intro h
    obtain ⟨tail, rfl, hclose, hopen⟩ := enclosed?_eq_some h
    obtain ⟨_, ⟨spelled, close, hs, hc, rfl⟩, rfl⟩ := close?_eq_some_iff.1 hclose
    exact ⟨_, staysOpen_iff.1 hopen, ⟨spelled, close, hs, hc, rfl⟩, rfl⟩
  · rintro ⟨_, hb, ⟨spelled, close, hs, hc, rfl⟩, rfl⟩
    exact enclosed?_append (by simp) (close?_eq_some_iff.2 ⟨_, ⟨spelled, close, hs, hc, rfl⟩, rfl⟩)
      (staysOpen_iff.2 hb)

theorem element_of_find {text base rest : List Char} (h : find text = some (base, rest)) :
    ∃ element, Element element base ∧ text = element ++ rest := by
  unfold find at h
  split at h
  next text =>
    obtain ⟨tag, htag, hbody⟩ := Option.bind_eq_some_iff.1 h
    obtain ⟨spelled, hs, rfl⟩ := word?_eq_some_iff.1 htag
    obtain ⟨inner, hinner, htaken⟩ := List.exists_of_findSome?_eq_some hbody
    obtain ⟨assignment, ha, rfl⟩ := mem_assignmentEnds_iff.1 hinner
    obtain ⟨close, hb, hc, rfl⟩ := body?_eq_some_iff.1 htaken
    exact ⟨_, ⟨spelled, assignment, close, hs, ha, hb, hc, rfl⟩, by simp⟩
  next => simp at h

/-- A ruby element at the front is found, although not always with the value it was built from. -/
theorem find_isSome_of_element {element base : List Char} (h : Element element base)
    (rest : List Char) : (find (element ++ rest)).isSome = true := by
  obtain ⟨spelled, assignment, close, hs, ha, hb, hc, rfl⟩ := h
  have hinner : base ++ (close ++ rest) ∈
      assignmentEnds (assignment ++ (base ++ (close ++ rest))) :=
    mem_assignmentEnds_iff.2 ⟨assignment, ha, rfl⟩
  simp only [find, List.cons_append, List.append_assoc, word?_append hs, Option.bind_some,
    List.findSome?_isSome_iff]
  exact ⟨_, hinner, by rw [body?_eq_some_iff.2 ⟨close, hb, hc, rfl⟩]; rfl⟩

end Ruby

/-! ## Line breaks -/

namespace LineBreak

/-- A line break, with or without a slash. -/
def Element (element : List Char) : Prop :=
  ∃ spelled slash close, Spells ['b', 'r'] spelled ∧ TagEnd close ∧
    (slash = [] ∨ ∃ blanks, Blanks blanks ∧ slash = blanks ++ ['/']) ∧
      element = '<' :: (spelled ++ (slash ++ close))

theorem element_of_find {text kept rest : List Char} (h : find text = some (kept, rest)) :
    kept = [] ∧ ∃ element, Element element ∧ text = element ++ rest := by
  unfold find at h
  split at h
  next text =>
    obtain ⟨tag, htag, hend⟩ := Option.bind_eq_some_iff.1 h
    obtain ⟨spelled, hs, rfl⟩ := word?_eq_some_iff.1 htag
    split at hend
    next slashed hslashed =>
      obtain ⟨left, hleft, heq⟩ := Option.map_eq_some_iff.1 hend
      obtain ⟨rfl, rfl⟩ := Prod.mk.inj heq
      obtain ⟨close, hc, rfl⟩ := tagEnd?_eq_some_iff.1 hleft
      refine ⟨rfl, _, ⟨spelled, _, close, hs, hc, .inr ⟨_, blanks_takeWhile tag, rfl⟩, rfl⟩, ?_⟩
      simp only [List.append_assoc, List.cons_append, List.nil_append, ← hslashed,
        takeWhile_append_skipBlank]
    next =>
      obtain ⟨left, hleft, heq⟩ := Option.map_eq_some_iff.1 hend
      obtain ⟨rfl, rfl⟩ := Prod.mk.inj heq
      rw [tagEnd?_skipBlank] at hleft
      obtain ⟨close, hc, rfl⟩ := tagEnd?_eq_some_iff.1 hleft
      exact ⟨rfl, _, ⟨spelled, [], close, hs, hc, .inl rfl, rfl⟩, by simp⟩
  next => simp at h

theorem find_isSome_of_element {element : List Char} (h : Element element) (rest : List Char) :
    (find (element ++ rest)).isSome = true := by
  obtain ⟨spelled, slash, close, hs, hc, hslash, rfl⟩ := h
  simp only [find, List.cons_append, List.append_assoc, word?_append hs, Option.bind_some]
  rcases hslash with rfl | ⟨blanks, hb, rfl⟩
  · have hend := tagEnd?_append hc rest
    rw [← tagEnd?_skipBlank] at hend
    obtain ⟨blanks, hb, rfl⟩ := hc
    have hskip : skipBlank (blanks ++ ['>'] ++ rest) = '>' :: rest := by
      simpa using skipBlank_append hb ('>' :: rest) (by simp; decide)
    simp only [List.nil_append, hskip] at hend ⊢
    simp [hend]
  · have hskip : skipBlank (blanks ++ ['/'] ++ (close ++ rest)) = '/' :: (close ++ rest) := by
      simpa using skipBlank_append hb ('/' :: _) (by simp; decide)
    simp only [hskip, tagEnd?_append hc]
    rfl

end LineBreak

end ScriptStats.Markup
