import Mathlib.Data.List.Forall2
import Mathlib.Data.List.TakeWhile
import ScriptStats.Markup.Tag

/-!
# The grammar of tags

What the parts of tags look like, said without the readers, and the proof that the readers take
exactly these parts from the front of a text: `word?_eq_some_iff`, `tagEnd?_eq_some_iff` and
`mem_assignmentEnds_iff`.
-/

namespace ScriptStats.Markup

open Text

/-! ## Parts of tags -/

/-- `text` writes a word of small letters, each letter in one of its forms. -/
def Spells (word text : List Char) : Prop :=
  List.Forall₂ (fun letter c => sameLetter letter c = true) word text

def Blanks (text : List Char) : Prop :=
  ∀ c ∈ text, isBlank c = true

/-- A value stands between quotes, or it holds no angle bracket and begins with no blank. -/
inductive TagValue : List Char → Prop where
  | quoted {quote : Char} {inner : List Char} (hq : quote = '"' ∨ quote = '\'')
      (hi : quote ∉ inner) : TagValue (quote :: (inner ++ [quote]))
  | bare {value : List Char} (hv : ∀ c ∈ value, c ≠ '<' ∧ c ≠ '>')
      (hb : ∀ c ∈ value.head?, isBlank c = false) : TagValue value

/-- What closes a tag: an angle bracket, with blanks before it. -/
def TagEnd (text : List Char) : Prop :=
  ∃ blanks, Blanks blanks ∧ text = blanks ++ ['>']

/-- The part of an opening tag from its equals sign on, with blanks around the sign. -/
def Assignment (text : List Char) : Prop :=
  ∃ before after value close, Blanks before ∧ Blanks after ∧ TagValue value ∧ TagEnd close ∧
    text = before ++ '=' :: (after ++ (value ++ close))

/-! ## Blanks -/

theorem blanks_nil : Blanks [] := by
  simp [Blanks]

theorem blanks_singleton {c : Char} (h : isBlank c = true) : Blanks [c] :=
  fun _ hc => List.mem_singleton.1 hc ▸ h

theorem blanks_takeWhile (text : List Char) : Blanks (text.takeWhile isBlank) :=
  fun _ hc => List.mem_takeWhile_imp hc

theorem takeWhile_append_skipBlank (text : List Char) :
    text.takeWhile isBlank ++ skipBlank text = text :=
  List.takeWhile_append_dropWhile

theorem skipBlank_append {blanks : List Char} (hb : Blanks blanks) (rest : List Char)
    (hr : ∀ c ∈ rest.head?, isBlank c = false) : skipBlank (blanks ++ rest) = rest := by
  unfold skipBlank
  rw [List.dropWhile_append_of_pos hb]
  cases rest with
  | nil => rfl
  | cons c rest => rw [List.dropWhile_cons_of_neg (by simpa using hr c rfl)]

theorem skipBlank_blanks_append {blanks : List Char} (hb : Blanks blanks) (rest : List Char) :
    skipBlank (blanks ++ rest) = skipBlank rest :=
  List.dropWhile_append_of_pos hb

/-! ## Readers -/

theorem eq_false_of_dropWhile_eq_cons {p : Char → Bool} {text rest : List Char} {c : Char}
    (h : text.dropWhile p = c :: rest) : p c = false := by
  have := List.head_dropWhile_not p (l := text) (by rw [h]; simp)
  simpa only [h, List.head_cons] using this

theorem word?_append {word text : List Char} (h : Spells word text) (rest : List Char) :
    word? word (text ++ rest) = some rest := by
  induction h with
  | nil => rfl
  | cons hc _ ih => rw [List.cons_append, word?, if_pos hc, ih]

theorem word?_eq_some_iff {word text rest : List Char} :
    word? word text = some rest ↔ ∃ spelled, Spells word spelled ∧ text = spelled ++ rest := by
  constructor
  · intro h
    fun_induction word? word text with
    | case1 text => exact ⟨[], .nil, by simpa using h⟩
    | case2 => simp at h
    | case3 letter word c text hc ih =>
      obtain ⟨spelled, hs, rfl⟩ := ih h
      exact ⟨c :: spelled, .cons hc hs, rfl⟩
    | case4 => simp at h
  · rintro ⟨spelled, hs, rfl⟩
    exact word?_append hs rest

theorem tagEnd?_skipBlank (text : List Char) : tagEnd? (skipBlank text) = tagEnd? text := by
  have h : skipBlank (skipBlank text) = skipBlank text := by
    rw [← skipBlank_blanks_append (blanks_takeWhile text) (skipBlank text),
      takeWhile_append_skipBlank]
  rw [tagEnd?, tagEnd?, h]

theorem tagEnd?_append {close : List Char} (h : TagEnd close) (rest : List Char) :
    tagEnd? (close ++ rest) = some rest := by
  obtain ⟨blanks, hb, rfl⟩ := h
  have hskip : skipBlank (blanks ++ ['>'] ++ rest) = '>' :: rest := by
    rw [List.append_assoc]
    exact skipBlank_append hb _ (by simp; decide)
  simp only [tagEnd?, hskip]

theorem tagEnd?_eq_some_iff {text rest : List Char} :
    tagEnd? text = some rest ↔ ∃ close, TagEnd close ∧ text = close ++ rest := by
  constructor
  · intro h
    unfold tagEnd? at h
    split at h
    next r hr =>
      cases h
      refine ⟨_, ⟨_, blanks_takeWhile text, rfl⟩, ?_⟩
      rw [List.append_assoc, List.singleton_append, ← hr, takeWhile_append_skipBlank]
    next => simp at h
  · rintro ⟨close, hc, rfl⟩
    exact tagEnd?_append hc rest

theorem quotedEnd?_eq_some_iff {text rest : List Char} :
    quotedEnd? text = some rest ↔ ∃ quote inner close, (quote = '"' ∨ quote = '\'') ∧
      quote ∉ inner ∧ TagEnd close ∧ text = quote :: (inner ++ quote :: (close ++ rest)) := by
  constructor
  · intro h
    unfold quotedEnd? at h
    split at h
    next => simp at h
    next quote text =>
      split at h
      next hq =>
        split at h
        next => simp at h
        next c after hafter =>
          have hc : c = quote := by simpa using eq_false_of_dropWhile_eq_cons hafter
          obtain ⟨close, hclose, rfl⟩ := tagEnd?_eq_some_iff.1 h
          refine ⟨quote, text.takeWhile (· ≠ quote), close, hq, ?_, hclose, ?_⟩
          · intro hm
            simpa using List.mem_takeWhile_imp hm
          · rw [← hc, ← hafter, hc, List.takeWhile_append_dropWhile]
      next => simp at h
  · rintro ⟨quote, inner, close, hq, hi, hclose, rfl⟩
    have hdrop : (inner ++ quote :: (close ++ rest)).dropWhile (· ≠ quote) =
        quote :: (close ++ rest) := by
      rw [List.dropWhile_append_of_pos (by
        intro c hc
        simpa using fun e : c = quote => hi (e ▸ hc))]
      simp
    simp only [quotedEnd?, if_pos hq, hdrop]
    exact tagEnd?_append hclose rest

theorem bareEnd?_eq_some_iff {text rest : List Char} :
    bareEnd? text = some rest ↔ ∃ value, (∀ c ∈ value, c ≠ '<' ∧ c ≠ '>') ∧
      text = value ++ '>' :: rest := by
  constructor
  · intro h
    unfold bareEnd? at h
    split at h
    next r hr =>
      cases h
      refine ⟨text.takeWhile fun c => c ≠ '<' ∧ c ≠ '>', fun c hc => ?_, ?_⟩
      · simpa using List.mem_takeWhile_imp hc
      · rw [← hr, List.takeWhile_append_dropWhile]
    next => simp at h
  · rintro ⟨value, hv, rfl⟩
    have hdrop : (value ++ '>' :: rest).dropWhile (fun c => c ≠ '<' ∧ c ≠ '>') = '>' :: rest := by
      rw [List.dropWhile_append_of_pos (by intro c hc; simpa using hv c hc)]
      simp
    simp only [bareEnd?, hdrop]

theorem ne_of_isBlank {c d : Char} (hc : isBlank c = true) (hd : isBlank d = false) : c ≠ d := by
  rintro rfl
  rw [hc] at hd
  cases hd

/-- Whatever way a value can be read, its text is a value in the sense of `TagValue`. -/
theorem mem_valueEnds_skipBlank_iff {text rest : List Char} :
    rest ∈ valueEnds (skipBlank text) ↔ ∃ after value close, Blanks after ∧ TagValue value ∧
      TagEnd close ∧ text = after ++ (value ++ (close ++ rest)) := by
  simp only [valueEnds, List.mem_append, Option.mem_toList, quotedEnd?_eq_some_iff,
    bareEnd?_eq_some_iff]
  constructor
  · have htext := takeWhile_append_skipBlank text
    rintro (⟨quote, inner, close, hq, hi, hclose, h⟩ | ⟨value, hv, h⟩)
    · refine ⟨_, _, close, blanks_takeWhile text, .quoted hq hi, hclose, ?_⟩
      simpa [h] using htext.symm
    · refine ⟨_, value, ['>'], blanks_takeWhile text, .bare hv ?_, ⟨[], blanks_nil, rfl⟩, ?_⟩
      · intro c hc
        obtain ⟨value, rfl⟩ := List.head?_eq_some_iff.1 hc
        exact eq_false_of_dropWhile_eq_cons h
      · simpa [h] using htext.symm
  · rintro ⟨after, value, close, ha, hv, ⟨blanks, hb, rfl⟩, rfl⟩
    rw [skipBlank_blanks_append ha]
    cases hv with
    | @quoted quote inner hq hi =>
      refine .inl ⟨quote, inner, blanks ++ ['>'], hq, hi, ⟨blanks, hb, rfl⟩, ?_⟩
      have hquote : isBlank quote = false := by rcases hq with rfl | rfl <;> decide
      simpa using skipBlank_append blanks_nil (quote :: _) (by simpa using hquote)
    | bare hv hhead =>
      right
      cases value with
      | nil =>
        refine ⟨[], by simp, ?_⟩
        simpa using skipBlank_append hb ('>' :: rest) (by simp; decide)
      | cons c value =>
        -- The blanks before the bracket belong to the value as the reader sees it.
        refine ⟨c :: value ++ blanks, fun d hd => ?_, ?_⟩
        · rcases List.mem_append.1 hd with hd | hd
          · exact hv d hd
          · exact ⟨ne_of_isBlank (hb d hd) (by decide), ne_of_isBlank (hb d hd) (by decide)⟩
        · simpa using skipBlank_append blanks_nil (c :: _) (by simpa using hhead)

theorem mem_assignmentEnds_iff {text rest : List Char} :
    rest ∈ assignmentEnds text ↔ ∃ tag, Assignment tag ∧ text = tag ++ rest := by
  unfold assignmentEnds
  constructor
  · intro h
    split at h
    next inside hinside =>
      obtain ⟨after, value, close, ha, hv, hc, rfl⟩ := mem_valueEnds_skipBlank_iff.1 h
      refine ⟨_, ⟨_, after, value, close, blanks_takeWhile text, ha, hv, hc, rfl⟩, ?_⟩
      simpa [hinside] using (takeWhile_append_skipBlank text).symm
    next => simp at h
  · rintro ⟨tag, ⟨before, after, value, close, hb, ha, hv, hc, rfl⟩, rfl⟩
    have hskip : skipBlank (before ++ '=' :: (after ++ (value ++ close)) ++ rest) =
        '=' :: (after ++ (value ++ (close ++ rest))) := by
      simpa using skipBlank_append hb ('=' :: _) (by simp; decide)
    simp only [hskip]
    exact mem_valueEnds_skipBlank_iff.2 ⟨after, value, close, ha, hv, hc, rfl⟩

end ScriptStats.Markup
