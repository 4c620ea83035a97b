import ScriptStats.Proofs.Markup.Marked
import ScriptStats.Proofs.Markup.Pair

/-!
# Labels

How the readers of tags fare with the name of a well-formed tag, in small letters or capitals, and
with what follows it. A name is read where it stands and nowhere else, although some names begin as
others do.
-/

namespace ScriptStats

theorem Text.isWordChar_of_isAlpha {c : Char} (h : c.isAlpha = true) : isWordChar c = true := by
  have all : ∀ n < 123, 65 ≤ n ∧ n ≤ 90 ∨ 97 ≤ n → wordRanges.contains n = true := by decide
  have hranges := (Bool.or_eq_true_iff.1 h).imp isUpper_iff.1 isLower_iff.1
  exact all c.toNat (by omega) (by omega)

namespace Markup

open Text Format

/-- What may come after the name of a tag. -/
def EndsLabel (c : Char) : Prop :=
  c = '=' ∨ c = '>' ∨ c = '/' ∨ c = ' '

/-- A letter of a tag name, which may be a capital. -/
def IsLabelChar (c : Char) : Prop :=
  IsNameLetter c.toLower

/-- The names of well-formed tags. -/
def labels : List (List Char) :=
  Ruby.name :: ['b', 'r'] :: names

/-- A tag name in small letters or capitals. -/
def IsLabel (label : List Char) : Prop :=
  label.map Char.toLower ∈ labels

theorem isNameLetter_of_mem_labels {name : List Char} (h : name ∈ labels) :
    ∀ letter ∈ name, IsNameLetter letter := by
  simp only [labels, List.mem_cons] at h
  rcases h with rfl | rfl | h
  · simp [Ruby.name, IsNameLetter]
  · simp [IsNameLetter]
  · exact isNameLetter_of_mem name h

theorem IsLabel.isLabelChar {label : List Char} (h : IsLabel label) :
    ∀ c ∈ label, IsLabelChar c :=
  fun _ hc => isNameLetter_of_mem_labels h _ (List.mem_map_of_mem hc)

/-! ## Single characters -/

theorem sameLetter_eq_decide (letter : Char) {c : Char} (hc : IsLabelChar c) :
    sameLetter letter c = decide (c.toLower = letter) := by
  have hne : c ≠ '\u017F' ∧ c ≠ '\u212A' ∧ c ≠ '\u0130' ∧ c ≠ '\u0131' := by
    refine ⟨?_, ?_, ?_, ?_⟩ <;> rintro rfl <;> revert hc <;> unfold IsLabelChar IsNameLetter <;>
      decide
  simp [sameLetter, hne]

theorem sameLetter_eq_false_of_endsLabel {letter e : Char} (hl : IsNameLetter letter)
    (he : EndsLabel e) : sameLetter letter e = false := by
  have hne : e ≠ letter := by
    rintro rfl
    revert hl
    rcases he with rfl | rfl | rfl | rfl <;> unfold IsNameLetter <;> decide
  have hlower : e.toLower = e := by rcases he with rfl | rfl | rfl | rfl <;> decide
  rcases he with rfl | rfl | rfl | rfl <;> simp [sameLetter, hlower, hne]

theorem endsName_of_endsLabel {e : Char} (he : EndsLabel e) : EndsName e := by
  rcases he with rfl | rfl | rfl | rfl <;> unfold EndsName <;> decide

theorem isAlpha_of_isLabelChar {c : Char} (hc : IsLabelChar c) : c.isAlpha = true ∨ c = '-' := by
  unfold IsLabelChar IsNameLetter Char.toLower at hc
  split at hc
  next hupper =>
    exact .inl (Bool.or_eq_true_iff.2 (.inl (isUpper_iff.2 hupper)))
  next => exact hc.imp_left fun hlower => Bool.or_eq_true_iff.2 (.inr hlower)

theorem not_endsName_of_isLabelChar {c : Char} (hc : IsLabelChar c) : ¬ EndsName c := by
  rintro ⟨hword, hhyphen⟩
  rcases isAlpha_of_isLabelChar hc with halpha | rfl
  · rw [isWordChar_of_isAlpha halpha] at hword
    cases hword
  · exact hhyphen rfl

theorem ne_slash_of_isLabelChar {c : Char} (hc : IsLabelChar c) : c ≠ '/' := by
  rintro rfl
  exact absurd (isAlpha_of_isLabelChar hc) (by decide)

theorem IsLabel.exists_cons {label : List Char} (h : IsLabel label) :
    ∃ c more, label = c :: more ∧ c ≠ '/' := by
  cases label with
  | nil => exact absurd h (by unfold IsLabel; decide)
  | cons c more =>
    exact ⟨c, more, rfl, ne_slash_of_isLabelChar (h.isLabelChar c (List.mem_cons_self ..))⟩

/-! ## Names -/

theorem spells_label {label : List Char} (h : ∀ c ∈ label, IsLabelChar c) :
    Spells (label.map Char.toLower) label := by
  induction label with
  | nil => exact .nil
  | cons c label ih =>
    simp only [List.mem_cons, forall_eq_or_imp] at h
    refine .cons ?_ (ih h.2)
    rw [sameLetter_eq_decide _ h.1, decide_eq_true rfl]

/-- A name is read off a label just when the label begins with it. -/
theorem word?_label {name label : List Char} (hn : ∀ letter ∈ name, IsNameLetter letter)
    (hl : ∀ c ∈ label, IsLabelChar c) {e : Char} (he : EndsLabel e) (rest : List Char) :
    word? name (label ++ e :: rest) =
      if name <+: label.map Char.toLower then some (label.drop name.length ++ e :: rest)
      else none := by
  induction name generalizing label with
  | nil => simp [word?]
  | cons letter name ih =>
    simp only [List.mem_cons, forall_eq_or_imp] at hn
    cases label with
    | nil => simp [word?, sameLetter_eq_false_of_endsLabel hn.1 he]
    | cons c label =>
      simp only [List.mem_cons, forall_eq_or_imp] at hl
      rw [List.cons_append, word?, sameLetter_eq_decide letter hl.1, ih hn.2 hl.2]
      simp only [List.map_cons, List.cons_prefix_cons, decide_eq_true_eq, List.length_cons,
        List.drop_succ_cons, ite_and, eq_comm (a := letter)]

/-- What is left of a label when a name has been read: nothing, or more of its letters. -/
theorem drop_label {name label : List Char} (h : name <+: label.map Char.toLower) :
    name = label.map Char.toLower ∧ label.drop name.length = [] ∨
      name ≠ label.map Char.toLower ∧ ∃ c ∈ label, ∃ more, label.drop name.length = c :: more := by
  have hlength := h.length_le
  rw [List.length_map] at hlength
  by_cases heq : name = label.map Char.toLower
  · refine .inl ⟨heq, ?_⟩
    rw [List.drop_eq_nil_iff, heq, List.length_map]
  · refine .inr ⟨heq, ?_⟩
    have hlt : name.length < label.length := by
      refine lt_of_le_of_ne hlength fun hsame => heq (h.eq_of_length ?_)
      rw [hsame, List.length_map]
    exact ⟨label[name.length], List.getElem_mem hlt, _, List.drop_eq_getElem_cons hlt⟩

section Label

variable {label : List Char} (hl : IsLabel label) {e : Char} (he : EndsLabel e) (rest : List Char)
include hl he

/-- A name with which no other begins is read off its own labels. -/
theorem word?_label_of_apart {name : List Char} (hn : name ∈ labels)
    (hapart : ∀ other ∈ labels, name <+: other ↔ name = other) :
    word? name (label ++ e :: rest) =
      if name = label.map Char.toLower then some (e :: rest) else none := by
  rw [word?_label (isNameLetter_of_mem_labels hn) hl.isLabelChar he]
  simp only [hapart _ hl]
  split
  next heq => rw [heq, List.length_map, List.drop_length, List.nil_append]
  next => rfl

theorem word?_ruby_label : word? Ruby.name (label ++ e :: rest) =
    if Ruby.name = label.map Char.toLower then some (e :: rest) else none :=
  word?_label_of_apart hl he rest (by decide) (by decide)

theorem word?_br_label : word? ['b', 'r'] (label ++ e :: rest) =
    if ['b', 'r'] = label.map Char.toLower then some (e :: rest) else none :=
  word?_label_of_apart hl he rest (by decide) (by decide)

theorem opens_label :
    Ruby.opens ('<' :: (label ++ e :: rest)) = decide (Ruby.name = label.map Char.toLower) := by
  simp only [Ruby.opens, word?_ruby_label hl he]
  by_cases hruby : Ruby.name = label.map Char.toLower
  · simp [hruby, (endsName_of_endsLabel he).1]
  · simp [hruby]

theorem namesTag_label :
    namesTag (label ++ e :: rest) = decide (label.map Char.toLower ∈ names) := by
  rw [Bool.eq_iff_iff, decide_eq_true_iff, namesTag_eq_true_iff]
  constructor
  · rintro ⟨name, hn, spelled, left, hs, hleft, heq⟩
    have hword := word?_append hs left
    rw [← heq, word?_label (isNameLetter_of_mem name hn) hl.isLabelChar he] at hword
    split at hword
    next hprefix =>
      rcases drop_label hprefix with ⟨rfl, -⟩ | ⟨-, c, hc, more, hdrop⟩
      · exact hn
      · obtain rfl := Option.some_inj.1 hword
        rw [hdrop] at hleft
        exact absurd (hleft c rfl) (not_endsName_of_isLabelChar (hl.isLabelChar c hc))
    next => cases hword
  · intro hn
    refine ⟨_, hn, label, e :: rest, spells_label hl.isLabelChar, fun c hc => ?_, rfl⟩
    obtain rfl := Option.some_inj.1 hc
    exact endsName_of_endsLabel he

theorem beginsTag_label :
    beginsTag ('<' :: (label ++ e :: rest)) = decide (label.map Char.toLower ∈ names) := by
  rw [← namesTag_label hl he rest, beginsTag.eq_def]
  obtain ⟨c, more, rfl, hc⟩ := hl.exists_cons
  simp [hc]

end Label

end Markup

end ScriptStats
