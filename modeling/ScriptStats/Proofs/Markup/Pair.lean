import ScriptStats.Markup.Format
import ScriptStats.Proofs.Markup.Element

/-!
# Format pairs

The grammar of a pair of format tags of one name. `Format.find` takes just such a pair from the
front of a text. Since a closing tag of the pair begins a format tag itself (`begins_of_pairClose`),
it is enough to say that no format tag begins between the two.
-/

namespace ScriptStats.Text

namespace Ranges

/-- All numbers in the ranges. -/
def members (ranges : Ranges) : List Nat :=
  ranges.flatMap fun range => List.range' range.1 (range.2 + 1 - range.1)

theorem mem_members {ranges : Ranges} {n : Nat} (h : ranges.contains n = true) :
    n ∈ ranges.members := by
  induction ranges with
  | nil => simp [contains] at h
  | cons range ranges ih =>
    obtain ⟨first, last⟩ := range
    rw [contains] at h
    split at h
    next => simp at h
    next hfirst =>
      simp only [Bool.or_eq_true, decide_eq_true_eq] at h
      simp only [members, List.flatMap_cons, List.mem_append, List.mem_range'_1]
      rcases h with h | h
      · left; omega
      · exact .inr (ih h)

end Ranges

theorem isUpper_iff {c : Char} : c.isUpper = true ↔ 65 ≤ c.toNat ∧ c.toNat ≤ 90 :=
  decide_eq_true_iff

theorem isLower_iff {c : Char} : c.isLower = true ↔ 97 ≤ c.toNat ∧ c.toNat ≤ 122 := by
  change (decide ('a'.val ≤ c.val) && decide (c.val ≤ 'z'.val)) = true ↔ _
  rw [Bool.and_eq_true, decide_eq_true_eq, decide_eq_true_eq]
  rfl

theorem isWordChar_of_isBlank {c : Char} (h : isBlank c = true) : isWordChar c = false := by
  have all : ∀ n ∈ blankRanges.members, wordRanges.contains n = false := by decide +kernel
  exact all _ (Ranges.mem_members h)

end ScriptStats.Text

namespace ScriptStats.Markup.Format

open Text

/-- A character that ends a tag name. -/
def EndsName (c : Char) : Prop :=
  isWordChar c = false ∧ c ≠ '-'

/-- A format tag begins here, opening or closing. -/
def Begins (text : List Char) : Prop :=
  ∃ name ∈ names, ∃ slash spelled rest, (slash = [] ∨ slash = ['/']) ∧ Spells name spelled ∧
    (∀ c ∈ rest.head?, EndsName c) ∧ text = '<' :: (slash ++ (spelled ++ rest))

/-- No format tag begins inside the text. -/
def HoldsNoTag (text : List Char) : Prop :=
  ∀ rest, rest <:+ text → ¬ Begins rest

/-- The closing tag of a pair whose opening tag has the name `opened`. -/
def PairClose (opened text : List Char) : Prop :=
  ∃ again close, List.Forall₂ (fun o c => pairLetter o = pairLetter c) opened again ∧
    TagEnd close ∧ text = '<' :: '/' :: (again ++ close)

/-- A pair of format tags that leaves the text between them behind. -/
def Pair (pair inner : List Char) : Prop :=
  ∃ name ∈ names, ∃ opened openEnd close, Spells name opened ∧
    (Assignment openEnd ∨ TagEnd openEnd) ∧ HoldsNoTag inner ∧ PairClose opened close ∧
      pair = '<' :: (opened ++ (openEnd ++ (inner ++ close)))

/-! ## Names -/

theorem eq_of_toLower_eq {a b : Char} (h : a.toLower = b) (hb : b.isLower = false) : a = b := by
  unfold Char.toLower at h
  split at h
  next hupper =>
    rw [Bool.eq_false_iff, Ne, Text.isLower_iff] at hb
    have hval := congrArg Char.toNat h
    simp [UInt32.le_iff_toNat_le] at hupper hval
    omega
  next => exact h

/-- The letters that tag names are made of. -/
def IsNameLetter (letter : Char) : Prop :=
  letter.isLower = true ∨ letter = '-'

theorem isNameLetter_of_mem : ∀ name ∈ names, ∀ letter ∈ name, IsNameLetter letter := by
  simp [names, IsNameLetter]

theorem sameLetter_eq_false {letter c : Char} (hl : IsNameLetter letter)
    (hc : c = '<' ∨ c = '/') : sameLetter letter c = false := by
  have hne : c ≠ letter := by
    rintro rfl
    rcases hl with hl | rfl
    · rcases hc with rfl | rfl <;> revert hl <;> decide
    · revert hc; decide
  have hlower : c.toLower = c := by rcases hc with rfl | rfl <;> decide
  rcases hc with rfl | rfl <;> simp [sameLetter, hlower, hne]

theorem ne_of_isNameLetter {letter : Char} (h : IsNameLetter letter) :
    letter ≠ '\u212A' ∧ letter ≠ '\u0130' := by
  rcases h with h | rfl
  · constructor <;> rintro rfl <;> revert h <;> decide
  · decide

/-- Letters that are compared as equal stand for the same letters of tag names. -/
theorem sameLetter_of_pairLetter_eq {letter a b : Char} (hl : IsNameLetter letter)
    (ha : sameLetter letter a = true) (h : pairLetter a = pairLetter b) :
    sameLetter letter b = true := by
  have hb (c : Char) (hc : pairLetter b = c) : b = '\u212A' ∧ c = 'k' ∨ b = '\u0130' ∧ c = 'i' ∨
      b.toLower = c := by
    unfold pairLetter at hc
    split_ifs at hc with h₁ h₂
    · exact .inl ⟨h₁, hc.symm⟩
    · exact .inr (.inl ⟨h₂, hc.symm⟩)
    · exact .inr (.inr hc)
  simp only [sameLetter, Bool.or_eq_true, Bool.and_eq_true, decide_eq_true_eq] at ha ⊢
  rcases ha with ((ha | ⟨rfl, rfl⟩) | ⟨rfl, rfl⟩) | ⟨rfl, rfl | rfl⟩
  · have hlower : pairLetter a = letter := by
      obtain ⟨h₁, h₂⟩ := ne_of_isNameLetter hl
      unfold pairLetter
      split_ifs with hk hi
      · exact absurd (by rw [← ha, hk]; decide) h₁
      · exact absurd (by rw [← ha, hi]; decide) h₂
      · exact ha
    rcases hb letter (h ▸ hlower) with ⟨rfl, rfl⟩ | ⟨rfl, rfl⟩ | hb
    · decide
    · decide
    · exact .inl (.inl (.inl hb))
  · rcases hb '\u017F' h.symm with ⟨-, h⟩ | ⟨-, h⟩ | h
    · exact absurd h (by decide)
    · exact absurd h (by decide)
    · obtain rfl := eq_of_toLower_eq h (by decide)
      decide
  · rcases hb 'k' h.symm with ⟨rfl, -⟩ | ⟨-, h⟩ | h
    · decide
    · exact absurd h (by decide)
    · exact .inl (.inl (.inl h))
  · rcases hb 'i' h.symm with ⟨-, h⟩ | ⟨rfl, -⟩ | h
    · exact absurd h (by decide)
    · decide
    · exact .inl (.inl (.inl h))
  · rcases hb '\u0131' h.symm with ⟨-, h⟩ | ⟨-, h⟩ | h
    · exact absurd h (by decide)
    · exact absurd h (by decide)
    · obtain rfl := eq_of_toLower_eq h (by decide)
      decide

theorem Spells.pairs {name opened again : List Char} (hn : ∀ letter ∈ name, IsNameLetter letter)
    (ho : Spells name opened)
    (ha : List.Forall₂ (fun o c => pairLetter o = pairLetter c) opened again) :
    Spells name again := by
  induction ho generalizing again with
  | nil => cases ha; exact .nil
  | cons hc _ ih =>
    cases ha with
    | cons hp ha =>
      simp only [List.mem_cons, forall_eq_or_imp] at hn
      exact .cons (sameLetter_of_pairLetter_eq hn.1 hc hp) (ih hn.2 ha)

theorem bracket_notMem_name {name spelled : List Char} (hn : name ∈ names)
    (hs : Spells name spelled) : '<' ∉ spelled :=
  bracket_notMem_spelled hs fun letter hl =>
    sameLetter_eq_false (isNameLetter_of_mem name hn letter hl) (.inl rfl)

theorem endsName_of_isBlank {c : Char} (h : isBlank c = true) : EndsName c :=
  ⟨isWordChar_of_isBlank h, ne_of_isBlank h (by decide)⟩

theorem endsName_of_tagEnd {close : List Char} (h : TagEnd close) (rest : List Char) :
    ∀ c ∈ (close ++ rest).head?, EndsName c := by
  obtain ⟨blanks, hb, rfl⟩ := h
  cases blanks with
  | nil => simp [EndsName]; decide
  | cons c blanks => simpa using endsName_of_isBlank (hb c (by simp))

theorem begins_of_pairClose {name opened close : List Char} (hn : name ∈ names)
    (ho : Spells name opened) (hc : PairClose opened close) (rest : List Char) :
    Begins (close ++ rest) := by
  obtain ⟨again, tag, ha, htag, rfl⟩ := hc
  exact ⟨name, hn, ['/'], again, tag ++ rest, .inr rfl,
    Spells.pairs (isNameLetter_of_mem name hn) ho ha, endsName_of_tagEnd htag rest, by simp⟩

/-! ## Readers -/

theorem namesTag_eq_true_iff {text : List Char} : namesTag text = true ↔
    ∃ name ∈ names, ∃ spelled rest, Spells name spelled ∧ (∀ c ∈ rest.head?, EndsName c) ∧
      text = spelled ++ rest := by
  have hend (c : Char) : (!(isWordChar c || c = '-')) = true ↔ EndsName c := by
    simp [EndsName]
  simp only [namesTag, List.any_eq_true]
  refine exists_congr fun name => and_congr_right fun _ => ?_
  constructor
  · intro h
    split at h
    next c rest hword =>
      obtain ⟨spelled, hs, rfl⟩ := word?_eq_some_iff.1 hword
      exact ⟨spelled, c :: rest, hs, by simpa using (hend c).1 h, rfl⟩
    next hword =>
      obtain ⟨spelled, hs, rfl⟩ := word?_eq_some_iff.1 hword
      exact ⟨spelled, [], hs, by simp, rfl⟩
    next => simp at h
  · rintro ⟨spelled, rest, hs, hr, rfl⟩
    rw [word?_append hs]
    cases rest with
    | nil => rfl
    | cons c rest => exact (hend c).2 (hr c rfl)

theorem beginsTag_eq_true_iff {text : List Char} : beginsTag text = true ↔ Begins text := by
  constructor
  · intro h
    unfold beginsTag at h
    split at h
    next text =>
      obtain ⟨name, hn, spelled, rest, hs, hr, rfl⟩ := namesTag_eq_true_iff.1 h
      exact ⟨name, hn, ['/'], spelled, rest, .inr rfl, hs, hr, rfl⟩
    next text =>
      obtain ⟨name, hn, spelled, rest, hs, hr, rfl⟩ := namesTag_eq_true_iff.1 h
      exact ⟨name, hn, [], spelled, rest, .inl rfl, hs, hr, rfl⟩
    next => simp at h
  · rintro ⟨name, hn, slash, spelled, rest, rfl | rfl, hs, hr, rfl⟩
    · have hname := namesTag_eq_true_iff.2 ⟨name, hn, spelled, rest, hs, hr, rfl⟩
      -- A name does not begin with a slash, so this is no closing tag.
      cases hs with
      | nil => simp [names] at hn
      | @cons letter c name spelled hc hs =>
        have hslash : c ≠ '/' := by
          rintro rfl
          rw [sameLetter_eq_false (isNameLetter_of_mem _ hn _ (by simp)) (.inr rfl)] at hc
          cases hc
        simpa [beginsTag.eq_def, hslash] using hname
    · exact namesTag_eq_true_iff.2 ⟨name, hn, spelled, rest, hs, hr, rfl⟩

theorem again?_eq_some_iff {opened text rest : List Char} :
    again? opened text = some rest ↔ ∃ again,
      List.Forall₂ (fun o c => pairLetter o = pairLetter c) opened again ∧
        text = again ++ rest := by
  constructor
  · intro h
    fun_induction again? opened text with
    | case1 text => exact ⟨[], .nil, by simpa using h⟩
    | case2 => simp at h
    | case3 o opened c text hc ih =>
      obtain ⟨again, ha, rfl⟩ := ih h
      exact ⟨c :: again, .cons hc ha, rfl⟩
    | case4 => simp at h
  · rintro ⟨again, ha, rfl⟩
    induction ha with
    | nil => rfl
    | cons hc _ ih => rw [List.cons_append, again?, if_pos hc, ih]

theorem close?_eq_some_iff {opened text rest : List Char} :
    close? opened text = some rest ↔ ∃ close, PairClose opened close ∧ text = close ++ rest := by
  unfold close?
  constructor
  · intro h
    split at h
    next text =>
      obtain ⟨tag, htag, hend⟩ := Option.bind_eq_some_iff.1 h
      obtain ⟨again, ha, rfl⟩ := again?_eq_some_iff.1 htag
      obtain ⟨close, hc, rfl⟩ := tagEnd?_eq_some_iff.1 hend
      exact ⟨_, ⟨again, close, ha, hc, rfl⟩, by simp⟩
    next => simp at h
  · rintro ⟨_, ⟨again, close, ha, hc, rfl⟩, rfl⟩
    simp [again?_eq_some_iff.2 ⟨again, ha, rfl⟩, tagEnd?_append hc]

theorem begins_append_bracket (c : Char) (text rest : List Char) :
    Begins (c :: (text ++ '<' :: rest)) ↔ Begins (c :: text) := by
  have hbracket : EndsName '<' := by unfold EndsName; decide
  have hnot {name slash spelled : List Char} (hn : name ∈ names) (hs : Spells name spelled)
      (hslash : slash = [] ∨ slash = ['/']) : '<' ∉ slash ++ spelled := by
    rcases hslash with rfl | rfl <;> simpa using bracket_notMem_name hn hs
  simp only [Begins, List.cons.injEq, ← List.append_assoc]
  constructor
  · rintro ⟨name, hn, slash, spelled, after, hslash, hs, ha, hc, h⟩
    obtain ⟨more, hm, rfl⟩ := (exists_append_bracket_iff hbracket (hnot hn hs hslash) rest).1
      ⟨after, ha, h⟩
    exact ⟨name, hn, slash, spelled, more, hslash, hs, hm, hc, rfl⟩
  · rintro ⟨name, hn, slash, spelled, after, hslash, hs, ha, hc, h⟩
    obtain ⟨more, hm, h⟩ := (exists_append_bracket_iff hbracket (hnot hn hs hslash) rest).2
      ⟨after, ha, h⟩
    exact ⟨name, hn, slash, spelled, more, hslash, hs, hm, hc, h⟩

theorem not_begins_nil : ¬ Begins [] := by
  rintro ⟨name, -, slash, spelled, rest, -, -, -, h⟩
  cases h

theorem staysOpen_iff {name opened inner rest : List Char} (hn : name ∈ names)
    (ho : Spells name opened) :
    StaysOpen (close? opened) beginsTag inner ('<' :: rest) ↔ HoldsNoTag inner := by
  constructor
  · intro h text htext
    cases text with
    | nil => exact not_begins_nil
    | cons c text =>
      rw [← begins_append_bracket c text rest, ← beginsTag_eq_true_iff, (h c text htext).2]
      simp
  · intro h c text htext
    have hbegins := h (c :: text) htext
    rw [← begins_append_bracket c text rest] at hbegins
    refine ⟨Option.eq_none_iff_forall_ne_some.2 fun left hleft => ?_, ?_⟩
    · obtain ⟨close, hc, heq⟩ := close?_eq_some_iff.1 hleft
      exact hbegins (heq ▸ begins_of_pairClose hn ho hc left)
    · rwa [← Bool.not_eq_true, beginsTag_eq_true_iff]

theorem body?_eq_some_iff {name opened text inner rest : List Char} (hn : name ∈ names)
    (ho : Spells name opened) : body? opened text = some (inner, rest) ↔
      ∃ close, HoldsNoTag inner ∧ PairClose opened close ∧ text = inner ++ (close ++ rest) := by
  constructor
  · intro h
    obtain ⟨tail, rfl, hclose, hopen⟩ := enclosed?_eq_some h
    obtain ⟨_, ⟨again, close, ha, hc, rfl⟩, rfl⟩ := close?_eq_some_iff.1 hclose
    exact ⟨_, (staysOpen_iff hn ho).1 hopen, ⟨again, close, ha, hc, rfl⟩, rfl⟩
  · rintro ⟨_, hi, ⟨again, close, ha, hc, rfl⟩, rfl⟩
    exact enclosed?_append (by simp) (close?_eq_some_iff.2 ⟨_, ⟨again, close, ha, hc, rfl⟩, rfl⟩)
      ((staysOpen_iff hn ho).2 hi)

theorem mem_openEnds_iff {text rest : List Char} : rest ∈ openEnds text ↔
    ∃ openEnd, (Assignment openEnd ∨ TagEnd openEnd) ∧ text = openEnd ++ rest := by
  simp only [openEnds, List.mem_append, Option.mem_toList, mem_assignmentEnds_iff,
    tagEnd?_eq_some_iff, or_and_right, exists_or]

theorem pair_of_find {text inner rest : List Char} (h : find text = some (inner, rest)) :
    ∃ pair, Pair pair inner ∧ text = pair ++ rest := by
  unfold find at h
  split at h
  next text =>
    obtain ⟨name, hn, h⟩ := List.exists_of_findSome?_eq_some h
    obtain ⟨tag, htag, hbody⟩ := Option.bind_eq_some_iff.1 h
    obtain ⟨opened, ho, rfl⟩ := word?_eq_some_iff.1 htag
    obtain ⟨more, hmore, htaken⟩ := List.exists_of_findSome?_eq_some hbody
    obtain ⟨openEnd, he, rfl⟩ := mem_openEnds_iff.1 hmore
    rw [ho.length_eq, List.take_left' rfl] at htaken
    obtain ⟨close, hi, hc, rfl⟩ := (body?_eq_some_iff hn ho).1 htaken
    exact ⟨_, ⟨name, hn, opened, openEnd, close, ho, he, hi, hc, rfl⟩, by simp⟩
  next => simp at h

theorem find_isSome_of_pair {pair inner : List Char} (h : Pair pair inner) (rest : List Char) :
    (find (pair ++ rest)).isSome = true := by
  obtain ⟨name, hn, opened, openEnd, close, ho, he, hi, hc, rfl⟩ := h
  have hends : inner ++ (close ++ rest) ∈ openEnds (openEnd ++ (inner ++ (close ++ rest))) :=
    mem_openEnds_iff.2 ⟨openEnd, he, rfl⟩
  have hbody : body? opened (inner ++ (close ++ rest)) = some (inner, rest) :=
    (body?_eq_some_iff hn ho).2 ⟨close, hi, hc, rfl⟩
  simp only [find, List.cons_append, List.append_assoc, List.findSome?_isSome_iff]
  refine ⟨name, hn, ?_⟩
  rw [word?_append ho, Option.bind_some, List.findSome?_isSome_iff]
  refine ⟨_, hends, ?_⟩
  rw [ho.length_eq, List.take_left' rfl, hbody]
  rfl

end ScriptStats.Markup.Format
