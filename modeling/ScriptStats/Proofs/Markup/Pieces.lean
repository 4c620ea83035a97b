import ScriptStats.Proofs.Markup.Label
import ScriptStats.Proofs.Markup.NormalForm

/-!
# Pieces of a well-formed line

The readers of opening tags on the tags of a well-formed line, and the brackets at which anything
can begin: a tag, a line break or a command has one in front and none behind it.
-/

namespace ScriptStats.Markup

open Text Format

/-! ## Opening tags -/

theorem skipBlank_of_head {c : Char} (hc : isBlank c = false) (text : List Char) :
    skipBlank (c :: text) = c :: text :=
  skipBlank_append blanks_nil (c :: text) (by simpa using hc)

/-- A written value is read to its end, in whatever way it is read. -/
theorem findSome?_valueEnds {α : Type} (value : Value) (rest : List Char)
    (f : List Char → Option α) :
    (valueEnds (skipBlank (value.text ++ '>' :: rest))).findSome? f = f rest := by
  obtain ⟨_, written⟩ := value
  cases written with
  | @quoted quote inner hq hi =>
    have hblank : isBlank quote = false := by rcases hq with rfl | rfl <;> decide
    have hangle : quote ≠ '<' ∧ quote ≠ '>' := by rcases hq with rfl | rfl <;> decide
    have hquoted : quotedEnd? (quote :: (inner ++ [quote]) ++ '>' :: rest) = some rest := by
      refine quotedEnd?_eq_some_iff.2 ⟨quote, inner, ['>'], hq, fun hmem => ?_,
        ⟨[], blanks_nil, rfl⟩, by simp⟩
      have hchar := hi quote hmem
      rcases hq with rfl | rfl
      · exact hchar.1 rfl
      · exact hchar.2.1 rfl
    have hbare : bareEnd? (quote :: (inner ++ [quote]) ++ '>' :: rest) = some rest := by
      refine bareEnd?_eq_some_iff.2 ⟨_, fun c hc => ?_, rfl⟩
      simp only [List.mem_cons, List.mem_append, List.not_mem_nil, or_false] at hc
      rcases hc with rfl | hc | rfl
      · exact hangle
      · exact ⟨(hi c hc).2.2.1, (hi c hc).2.2.2.1⟩
      · exact hangle
    dsimp only
    rw [List.cons_append, skipBlank_of_head hblank, ← List.cons_append, valueEnds, hquoted, hbare]
    cases hf : f rest <;> simp [hf]
  | bare hne hv =>
    obtain ⟨c, value, rfl⟩ := List.exists_cons_of_ne_nil hne
    have hc := hv c (List.mem_cons_self ..)
    have hquoted : quotedEnd? (c :: value ++ '>' :: rest) = none := by
      have hquote : ¬ (c = '"' ∨ c = '\'') := not_or.2 ⟨hc.1.1, hc.1.2.1⟩
      rw [List.cons_append, quotedEnd?, if_neg hquote]
    have hbare : bareEnd? (c :: value ++ '>' :: rest) = some rest :=
      bareEnd?_eq_some_iff.2
        ⟨_, fun d hd => ⟨(hv d hd).1.2.2.1, (hv d hd).1.2.2.2.1⟩, rfl⟩
    dsimp only
    rw [List.cons_append, skipBlank_of_head hc.2, ← List.cons_append, valueEnds, hquoted, hbare]
    cases hf : f rest <;> simp [hf]

theorem findSome?_assignmentEnds {α : Type} (value : Value) (rest : List Char)
    (f : List Char → Option α) :
    (assignmentEnds ('=' :: (value.text ++ '>' :: rest))).findSome? f = f rest := by
  simp only [assignmentEnds, skipBlank_of_head (show isBlank '=' = false by decide)]
  exact findSome?_valueEnds value rest f

theorem findSome?_openEnds {α : Type} {name : List Char}
    (hn : name.map Char.toLower ∈ names) (value : Option Value) (rest : List Char)
    (f : List Char → Option α) :
    (openEnds ((ElementTag.format name hn value).tail ++ rest)).findSome? f = f rest := by
  cases value with
  | none =>
    have hassign : assignmentEnds ('>' :: rest) = [] := by
      rw [assignmentEnds, skipBlank_of_head (by decide)]
      rfl
    have htag : tagEnd? ('>' :: rest) = some rest :=
      tagEnd?_append ⟨[], blanks_nil, rfl⟩ rest
    simp [ElementTag.tail, openEnds, hassign, htag]
  | some value =>
    have htag : tagEnd? ('=' :: (value.text ++ '>' :: rest)) = none := by
      rw [tagEnd?, skipBlank_of_head (by decide)]
      rfl
    have hassign := findSome?_assignmentEnds value rest f
    simpa [ElementTag.tail, openEnds, htag] using hassign

/-- A tag does not end, and gets no value, in the middle of its name. -/
theorem openEnds_of_isLabelChar {c : Char} (hc : IsLabelChar c) (text : List Char) :
    openEnds (c :: text) = [] := by
  have hne : c ≠ '=' ∧ c ≠ '>' := by
    constructor <;> rintro rfl <;> exact absurd (isAlpha_of_isLabelChar hc) (by decide)
  have hblank : isBlank c = false := by
    rw [← Bool.not_eq_true]
    exact fun hblank => not_endsName_of_isLabelChar hc (endsName_of_isBlank hblank)
  simp [openEnds, assignmentEnds, tagEnd?, skipBlank_of_head hblank, hne]

/-! ## What a line is made of -/

namespace ElementTag

theorem isLabel (tag : ElementTag) : IsLabel tag.label := by
  cases tag with
  | ruby value => exact (by decide : Ruby.name.map Char.toLower ∈ labels)
  | format name hn value => exact List.mem_cons_of_mem _ (List.mem_cons_of_mem _ hn)

theorem ruby_eq_label_iff (tag : ElementTag) :
    Ruby.name = tag.label.map Char.toLower ↔ tag.kind = .ruby := by
  cases tag with
  | ruby value => exact iff_of_true (by decide : Ruby.name = Ruby.name.map Char.toLower) rfl
  | format name hn value =>
    refine iff_of_false (fun h : Ruby.name = name.map Char.toLower => ?_) (by simp [kind])
    rw [← h] at hn
    exact absurd hn (by decide)

theorem label_mem_names_iff (tag : ElementTag) :
    tag.label.map Char.toLower ∈ names ↔ tag.kind = .format := by
  cases tag with
  | ruby value =>
    exact iff_of_false (by decide : Ruby.name.map Char.toLower ∉ names) (by simp [kind])
  | format name hn value => exact iff_of_true hn rfl

theorem exists_tail_eq (tag : ElementTag) (rest : List Char) :
    ∃ e more, EndsLabel e ∧ tag.tail ++ rest = e :: more := by
  cases tag with
  | ruby => exact ⟨_, _, .inl rfl, rfl⟩
  | format name hn value =>
    cases value with
    | none => exact ⟨_, _, .inr (.inl rfl), rfl⟩
    | some value => exact ⟨_, _, .inl rfl, rfl⟩

end ElementTag

theorem BreakForm.exists_text_append_eq (form : BreakForm) (rest : List Char) :
    ∃ e more, EndsLabel e ∧ form.text ++ rest = '<' :: (['b', 'r'] ++ e :: more) := by
  cases form with
  | plain => exact ⟨_, _, .inr (.inl rfl), rfl⟩
  | slashed => exact ⟨_, _, .inr (.inr (.inl rfl)), rfl⟩
  | spaced => exact ⟨_, _, .inr (.inr (.inr rfl)), rfl⟩

/-! ### Brackets -/

/-- A character at which neither a tag nor a command begins. -/
def IsNoBracket (c : Char) : Prop :=
  c ≠ '<' ∧ c ≠ '['

theorem isNoBracket_of_isLabelChar {c : Char} (hc : IsLabelChar c) : IsNoBracket c := by
  constructor <;> rintro rfl <;> exact absurd (isAlpha_of_isLabelChar hc) (by decide)

theorem Value.isNoBracket (value : Value) : ∀ c ∈ value.text, IsNoBracket c := by
  obtain ⟨_, written⟩ := value
  have hchar {c : Char} (hc : IsValueChar c) : IsNoBracket c := ⟨hc.2.2.1, hc.2.2.2.2.1⟩
  intro c hc
  cases written with
  | quoted hq hi =>
    simp only [List.mem_cons, List.mem_append, List.not_mem_nil, or_false] at hc
    rcases hc with rfl | hc | rfl
    · rcases hq with rfl | rfl <;> unfold IsNoBracket <;> decide
    · exact hchar (hi c hc)
    · rcases hq with rfl | rfl <;> unfold IsNoBracket <;> decide
  | bare _ hv => exact hchar (hv c hc).1

theorem BreakForm.isNoBracket (form : BreakForm) : ∀ c ∈ form.text.tail, IsNoBracket c := by
  cases form <;> simp [BreakForm.text, IsNoBracket]

theorem bracket_ne_of_isBody {body : List Char} (h : ∀ c ∈ body, IsBodyChar c) :
    ∀ c ∈ '[' :: (body ++ [']']), c ≠ '<' := by
  simp only [List.mem_cons, List.mem_append, List.not_mem_nil, or_false]
  rintro c (rfl | hc | rfl)
  · decide
  · exact (h c hc).2.2.1
  · decide

namespace ElementTag

theorem isNoBracket_label (tag : ElementTag) : ∀ c ∈ tag.label, IsNoBracket c :=
  fun c hc => isNoBracket_of_isLabelChar (tag.isLabel.isLabelChar c hc)

theorem isNoBracket_tail (tag : ElementTag) : ∀ c ∈ tag.tail, IsNoBracket c := by
  have hend : IsNoBracket '=' ∧ IsNoBracket '>' := by unfold IsNoBracket; decide
  have hvalue (value : Value) : ∀ c ∈ '=' :: (value.text ++ ['>']), IsNoBracket c := by
    simp only [List.mem_cons, List.mem_append, List.not_mem_nil, or_false]
    rintro c (rfl | hc | rfl)
    · exact hend.1
    · exact value.isNoBracket c hc
    · exact hend.2
  cases tag with
  | ruby value => exact hvalue value
  | format name hn value =>
    cases value with
    | none => simpa [tail] using hend.2
    | some value => exact hvalue value

theorem isNoBracket_opening (tag : ElementTag) : ∀ c ∈ tag.opening.tail, IsNoBracket c := by
  intro c hc
  rcases List.mem_append.1 hc with hc | hc
  · exact tag.isNoBracket_label c hc
  · exact tag.isNoBracket_tail c hc

theorem isNoBracket_closing (tag : ElementTag) : ∀ c ∈ tag.closing.tail, IsNoBracket c := by
  intro c hc
  simp only [closing, List.tail_cons, List.mem_cons, List.mem_append, List.not_mem_nil,
    or_false] at hc
  rcases hc with rfl | hc | rfl
  · unfold IsNoBracket; decide
  · exact tag.isNoBracket_label c hc
  · unfold IsNoBracket; decide

end ElementTag

end ScriptStats.Markup
