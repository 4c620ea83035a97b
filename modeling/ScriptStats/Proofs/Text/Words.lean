import Mathlib.Data.List.Basic
import ScriptStats.Proofs.Text.Pieces
import ScriptStats.Words

/-!
# Words as the longest stretches without a separator

The pieces of a text stand one mark apart, and a piece ends only where a mark or the text does. So
the words of a text are the stretches without a separator that cannot be made longer, in order
(`words_longest`).
-/

namespace ScriptStats

namespace Text

variable {α : Type} {isMark : α → Bool}

/-! ## Where pieces stand -/

/-- The spans of pieces that stand one mark apart, the first one at `start`. -/
def spansFrom (start : Nat) : List (List α) → List (Nat × Nat)
  | [] => []
  | piece :: more =>
    (start, start + piece.length) :: spansFrom (start + piece.length + 1) more

/-- A span without a mark, with a mark or an end of the text on either side. -/
structure IsBounded (isMark : α → Bool) (text : List α) (first stop : Nat) : Prop where
  le : first ≤ stop
  within : stop ≤ text.length
  free : ∀ k c, first ≤ k → k < stop → text[k]? = some c → isMark c = false
  before : ∀ k c, k + 1 = first → text[k]? = some c → isMark c = true
  after : ∀ c, text[stop]? = some c → isMark c = true

theorem spansFrom_succ (start : Nat) (pieces : List (List α)) :
    spansFrom (start + 1) pieces =
      (spansFrom start pieces).map fun span => (span.1 + 1, span.2 + 1) := by
  induction pieces generalizing start with
  | nil => rfl
  | cons piece more ih =>
    rw [spansFrom, spansFrom, List.map_cons, ← ih, Nat.add_right_comm start 1]

theorem spansFrom_mark (pieces : List (List α)) : spansFrom 0 ([] :: pieces) =
    (0, 0) :: (spansFrom 0 pieces).map fun span => (span.1 + 1, span.2 + 1) := by
  rw [spansFrom, ← spansFrom_succ]
  rfl

theorem spansFrom_join (c : α) (piece : List α) (more : List (List α)) :
    spansFrom 0 ((c :: piece) :: more) = (0, piece.length + 1) ::
      (spansFrom (piece.length + 1) more).map fun span => (span.1 + 1, span.2 + 1) := by
  rw [spansFrom, ← spansFrom_succ, Nat.zero_add]
  rfl

theorem le_of_mem_spansFrom {start : Nat} {pieces : List (List α)} {span : Nat × Nat}
    (h : span ∈ spansFrom start pieces) : start ≤ span.1 := by
  induction pieces generalizing start with
  | nil => exact absurd h List.not_mem_nil
  | cons piece more ih =>
    rcases List.mem_cons.1 h with rfl | h
    · exact Nat.le_refl start
    · have hle := ih h
      omega

theorem pairwise_spansFrom (start : Nat) (pieces : List (List α)) :
    (spansFrom start pieces).Pairwise fun span later => span.2 < later.1 := by
  induction pieces generalizing start with
  | nil => exact .nil
  | cons piece more ih => exact .cons (fun _ hlater => le_of_mem_spansFrom hlater) (ih _)

variable {c : α} {text : List α} {first stop : Nat}

theorem isBounded_nil : IsBounded isMark [] first stop ↔ first = 0 ∧ stop = 0 := by
  constructor
  · intro h
    have hle := h.le
    have hwithin : stop ≤ 0 := h.within
    omega
  · rintro ⟨rfl, rfl⟩
    exact ⟨Nat.le_refl 0, Nat.le_refl 0, nofun, nofun, nofun⟩

theorem isBounded_succ : IsBounded isMark (c :: text) (first + 1) (stop + 1) ↔
    IsBounded isMark text first stop ∧ (first = 0 → isMark c = true) := by
  constructor
  · intro h
    refine ⟨⟨Nat.le_of_succ_le_succ h.le, Nat.le_of_succ_le_succ h.within,
      fun k d hfirst hstop hd => h.free (k + 1) d (by omega) (by omega) hd,
      fun k d hk hd => h.before (k + 1) d (by omega) hd, h.after⟩, ?_⟩
    rintro rfl
    exact h.before 0 c rfl rfl
  · rintro ⟨h, hc⟩
    refine ⟨Nat.succ_le_succ h.le, Nat.succ_le_succ h.within, ?_, ?_, h.after⟩
    · rintro (_ | k) d hfirst hstop hd
      · omega
      · exact h.free k d (by omega) (by omega) hd
    · rintro (_ | k) d hk hd
      · obtain rfl : c = d := Option.some_inj.1 hd
        exact hc (by omega)
      · exact h.before k d (by omega) hd

theorem isBounded_zero_zero : IsBounded isMark (c :: text) 0 0 ↔ isMark c = true := by
  constructor
  · exact fun h => h.after c rfl
  · refine fun hc => ⟨Nat.le_refl 0, Nat.zero_le _, nofun, nofun, fun d hd => ?_⟩
    obtain rfl : c = d := Option.some_inj.1 hd
    exact hc

theorem isBounded_zero_succ : IsBounded isMark (c :: text) 0 (stop + 1) ↔
    isMark c = false ∧ IsBounded isMark text 0 stop := by
  constructor
  · intro h
    exact ⟨h.free 0 c (Nat.le_refl 0) (Nat.succ_pos stop) rfl, Nat.zero_le _,
      Nat.le_of_succ_le_succ h.within,
      fun k d _ hstop hd => h.free (k + 1) d (Nat.zero_le _) (by omega) hd, nofun, h.after⟩
  · rintro ⟨hc, h⟩
    refine ⟨Nat.zero_le _, Nat.succ_le_succ h.within, ?_, nofun, h.after⟩
    rintro (_ | k) d - hstop hd
    · obtain rfl : c = d := Option.some_inj.1 hd
      exact hc
    · exact h.free k d (Nat.zero_le k) (by omega) hd

theorem not_isBounded_succ_zero : ¬ IsBounded isMark text (first + 1) 0 :=
  fun h => absurd h.le (Nat.not_succ_le_zero first)

/-- The pieces of a text stand where nothing but marks and the ends of the text bounds them. -/
theorem mem_spansFrom_pieces (isMark : α → Bool) (text : List α) (first stop : Nat) :
    (first, stop) ∈ spansFrom 0 (pieces isMark text) ↔ IsBounded isMark text first stop := by
  refine pieces_induction (P := fun text pieces => ∀ first stop,
    (first, stop) ∈ spansFrom 0 pieces ↔ IsBounded isMark text first stop)
    (fun first stop => ?_) (fun c text pieces hc ih => ?_) (fun c text piece more hc ih => ?_)
    text first stop
  · rw [isBounded_nil]
    simp [spansFrom]
  · -- A mark opens a piece of its own, and the others move on by one.
    rw [spansFrom_mark]
    rintro (_ | first) (_ | stop)
    · simp [isBounded_zero_zero, hc]
    · simp [isBounded_zero_succ, hc]
    · simp [not_isBounded_succ_zero]
    · simp [isBounded_succ, hc, ih]
  · -- Any other character joins the first piece, and the others move on by one.
    have hpositive {stop : Nat} : (0, stop) ∉ spansFrom (piece.length + 1) more :=
      fun hmem => Nat.not_succ_le_zero _ (le_of_mem_spansFrom hmem)
    rw [spansFrom_join]
    simp only [spansFrom, Nat.zero_add, List.mem_cons, Prod.mk.injEq] at ih
    rintro (_ | first) (_ | stop)
    · simp [isBounded_zero_zero, hc]
    · simp [isBounded_zero_succ, hc, ← ih, hpositive]
    · simp [not_isBounded_succ_zero]
    · cases first with
      | zero => simp [isBounded_succ, hc, hpositive]
      | succ first => simp [isBounded_succ, ← ih]

theorem extract_succ (c : α) (text : List α) (first stop : Nat) :
    (c :: text).extract (first + 1) (stop + 1) = text.extract first stop := by
  simp [List.extract_eq_take_drop]

/-- The pieces are what stands in their spans. -/
theorem map_extract_spansFrom_pieces (isMark : α → Bool) (text : List α) :
    (spansFrom 0 (pieces isMark text)).map (fun span => text.extract span.1 span.2) =
      pieces isMark text := by
  refine pieces_induction (P := fun text pieces =>
    (spansFrom 0 pieces).map (fun span => text.extract span.1 span.2) = pieces)
    rfl (fun c text pieces hc ih => ?_) (fun c text piece more hc ih => ?_) text
  · rw [spansFrom_mark, List.map_cons, List.map_map]
    simp only [Function.comp_def, extract_succ, ih]
    rfl
  · rw [spansFrom, List.map_cons, List.cons.injEq, Nat.zero_add] at ih
    rw [spansFrom_join, List.map_cons, List.map_map]
    simp only [Function.comp_def, extract_succ, ih.2]
    have hfirst : (c :: text).extract 0 (piece.length + 1) = c :: text.extract 0 piece.length := rfl
    rw [hfirst, ih.1]

/-! ## Pieces of a longer text -/

/-- Where two texts meet, the last piece of the first and the first piece of the second are one. -/
theorem exists_pieces_append (isMark : α → Bool) (text more : List α) :
    ∃ before last first after, pieces isMark text = before ++ [last] ∧
      pieces isMark more = first :: after ∧
      pieces isMark (text ++ more) = before ++ (last ++ first) :: after := by
  obtain ⟨first, after, hmore⟩ := List.exists_cons_of_ne_nil (pieces_ne_nil isMark more)
  suffices h : ∃ before last, pieces isMark text = before ++ [last] ∧
      pieces isMark (text ++ more) = before ++ (last ++ first) :: after by
    obtain ⟨before, last, htext, happend⟩ := h
    exact ⟨before, last, first, after, htext, hmore, happend⟩
  refine pieces_induction (P := fun text pieces => ∃ before last, pieces = before ++ [last] ∧
    Text.pieces isMark (text ++ more) = before ++ (last ++ first) :: after)
    ⟨[], [], rfl, hmore⟩ (fun c text pieces hc ih => ?_) (fun c text piece others hc ih => ?_) text
  · obtain ⟨before, last, rfl, happend⟩ := ih
    exact ⟨[] :: before, last, rfl, by rw [List.cons_append, pieces_mark isMark hc, happend]; rfl⟩
  · obtain ⟨before, last, hpieces, happend⟩ := ih
    obtain _ | ⟨_, before⟩ := before
    · obtain ⟨rfl, rfl⟩ := List.cons.inj hpieces
      exact ⟨[], c :: piece, rfl, pieces_cons isMark hc happend⟩
    · obtain ⟨rfl, rfl⟩ := List.cons.inj hpieces
      exact ⟨(c :: piece) :: before, last, rfl, pieces_cons isMark hc happend⟩

end Text

/-! ## Words -/

/-- There is no separator in the text from one position to another. -/
def IsUnbroken (text : List Char) (first stop : Nat) : Prop :=
  stop ≤ text.length ∧ ∀ k c, first ≤ k → k < stop → text[k]? = some c →
    Text.isSeparatorRun [c] = false

/-- A stretch of the text without a separator that is in no longer one. -/
structure IsWord (text : List Char) (first stop : Nat) : Prop where
  lt : first < stop
  unbroken : IsUnbroken text first stop
  longest : ∀ first' stop', first' ≤ first → stop ≤ stop' → IsUnbroken text first' stop' →
    first' = first ∧ stop' = stop

theorem Text.isSeparatorRun_singleton (c : Char) : isSeparatorRun [c] = isSeparator c := by
  simp [isSeparatorRun]

theorem isUnbroken_iff {text : List Char} {first stop : Nat} : IsUnbroken text first stop ↔
    stop ≤ text.length ∧ ∀ k c, first ≤ k → k < stop → text[k]? = some c →
      Text.isSeparator c = false := by
  simp only [IsUnbroken, Text.isSeparatorRun_singleton]

/-- A stretch without a separator is a longest one if a separator or an end of the text is on either
side of it. -/
theorem isWord_iff {text : List Char} {first stop : Nat} : IsWord text first stop ↔
    first < stop ∧ Text.IsBounded Text.isSeparator text first stop := by
  constructor
  · intro h
    obtain ⟨hwithin, hfree⟩ := isUnbroken_iff.1 h.unbroken
    refine ⟨h.lt, Nat.le_of_lt h.lt, hwithin, hfree, fun k c hk hc => ?_, fun c hc => ?_⟩
    · by_contra hsep
      have hlonger : IsUnbroken text k stop := by
        refine isUnbroken_iff.2 ⟨hwithin, fun l d hl hstop hd => ?_⟩
        rcases Nat.eq_or_lt_of_le hl with rfl | hlt
        · obtain rfl : c = d := Option.some_inj.1 (hc.symm.trans hd)
          simpa using hsep
        · exact hfree l d (by omega) hstop hd
      have hsame := (h.longest k stop (by omega) (Nat.le_refl stop) hlonger).1
      omega
    · by_contra hsep
      obtain ⟨hlength, -⟩ := List.getElem?_eq_some_iff.1 hc
      have hlonger : IsUnbroken text first (stop + 1) := by
        refine isUnbroken_iff.2 ⟨hlength, fun l d hl hstop hd => ?_⟩
        rcases Nat.eq_or_lt_of_le (Nat.le_of_lt_succ hstop) with rfl | hlt
        · obtain rfl : c = d := Option.some_inj.1 (hc.symm.trans hd)
          simpa using hsep
        · exact hfree l d hl hlt hd
      have hsame := (h.longest first (stop + 1) (Nat.le_refl first) (by omega) hlonger).2
      omega
  · rintro ⟨hlt, h⟩
    refine ⟨hlt, isUnbroken_iff.2 ⟨h.within, h.free⟩, fun first' stop' hfirst hstop hlonger => ?_⟩
    obtain ⟨hwithin, hfree⟩ := isUnbroken_iff.1 hlonger
    -- The neighbours of the stretch, if there are any, are separators.
    have hbefore : ¬ first' < first := fun hless => by
      have hsep := h.before (first - 1) text[first - 1] (by omega) (List.getElem?_eq_getElem _)
      rw [hfree (first - 1) _ (by omega) (by omega) (List.getElem?_eq_getElem _)] at hsep
      cases hsep
    have hafter : ¬ stop < stop' := fun hless => by
      have hsep := h.after text[stop] (List.getElem?_eq_getElem _)
      rw [hfree stop _ (by omega) hless (List.getElem?_eq_getElem _)] at hsep
      cases hsep
    omega

theorem forall_mem_words (text : List Char) :
    ∀ word ∈ words text, word ≠ [] ∧ ∀ c ∈ word, Text.isSeparator c = false := by
  intro word hword
  obtain ⟨hpiece, hne⟩ := List.mem_filter.1 hword
  exact ⟨by simpa using hne, Text.forall_mem_pieces _ text word hpiece⟩

theorem flatten_words (text : List Char) :
    (words text).flatten = text.filter fun c => !Text.isSeparator c := by
  rw [words, List.flatten_filter_ne_nil, Text.flatten_pieces]

theorem words_append_separator {c : Char} (hc : Text.isSeparator c = true)
    (before after : List Char) : words (before ++ c :: after) = words before ++ words after := by
  rw [words, Text.pieces_append hc, List.filter_append]
  rfl

/-- The words stand where there is no longer stretch without a separator, and nowhere else. -/
theorem exists_spans (text : List Char) : ∃ spans : List (Nat × Nat),
    spans.Pairwise (fun span later => span.2 < later.1) ∧
      (∀ first stop, (first, stop) ∈ spans ↔ IsWord text first stop) ∧
      words text = spans.map fun span => text.extract span.1 span.2 := by
  refine ⟨(Text.spansFrom 0 (Text.pieces Text.isSeparator text)).filter fun span =>
    span.1 < span.2, (Text.pairwise_spansFrom 0 _).sublist List.filter_sublist, ?_, ?_⟩
  · intro first stop
    rw [List.mem_filter, Text.mem_spansFrom_pieces, isWord_iff, decide_eq_true_eq, and_comm]
  · rw [words, ← Text.map_extract_spansFrom_pieces, List.filter_map,
      Text.map_extract_spansFrom_pieces]
    refine congrArg _ (List.filter_congr fun span hspan => ?_)
    have hbounded := (Text.mem_spansFrom_pieces _ _ _ _).1 hspan
    have hlength : (text.extract span.1 span.2).length = span.2 - span.1 := by
      have hwithin := hbounded.within
      rw [List.extract_eq_take_drop, List.length_take, List.length_drop]
      omega
    rw [Function.comp_apply, decide_eq_decide, ← List.length_pos_iff, hlength]
    omega

/-- Two texts that do not meet at a separator have one word together where they meet. -/
theorem exists_words_append (before after : List Char) {c d : Char}
    (hc : Text.isSeparator c = false) (hd : Text.isSeparator d = false) :
    ∃ words₁ word word' words₂, words (before ++ [c]) = words₁ ++ [word] ∧
      words (d :: after) = word' :: words₂ ∧
      words (before ++ [c] ++ d :: after) = words₁ ++ (word ++ word') :: words₂ := by
  obtain ⟨start, last, first, rest, hlast, hfirst, happend⟩ :=
    Text.exists_pieces_append Text.isSeparator (before ++ [c]) (d :: after)
  have hlast_ne : last ≠ [] := by
    obtain ⟨start', last', first', rest', -, hc', happend'⟩ :=
      Text.exists_pieces_append Text.isSeparator before [c]
    rw [Text.pieces_eq_singleton (by simpa using hc)] at hc'
    obtain ⟨rfl, rfl⟩ := List.cons.inj hc'
    obtain ⟨-, hsame⟩ := List.append_inj' (hlast.symm.trans happend') rfl
    rw [(List.cons.inj hsame).1]
    simp
  have hfirst_ne : first ≠ [] := by
    obtain ⟨piece, more, hpieces⟩ :=
      List.exists_cons_of_ne_nil (Text.pieces_ne_nil Text.isSeparator after)
    rw [Text.pieces_cons _ hd hpieces] at hfirst
    rw [← (List.cons.inj hfirst).1]
    exact List.cons_ne_nil _ _
  refine ⟨start.filter (· ≠ []), last, first, rest.filter (· ≠ []), ?_, ?_, ?_⟩
  · simp [words, hlast, hlast_ne]
  · simp [words, hfirst, hfirst_ne]
  · rw [words, happend]
    simp [hlast_ne]

/-- The words of a text are its longest stretches without a separator, in order. Together they are the
text without its separators. A separator keeps the words on either side of it apart, and where two texts
meet without one, the last word of the first goes on with the first word of the second. -/
theorem words_longest :
    (∀ text, ∃ spans : List (Nat × Nat), spans.Pairwise (fun span later => span.2 < later.1) ∧
      (∀ first stop, (first, stop) ∈ spans ↔ IsWord text first stop) ∧
      words text = spans.map fun span => text.extract span.1 span.2) ∧
    (∀ text, ∀ word ∈ words text, ∀ c ∈ word, Text.isSeparatorRun [c] = false) ∧
    (∀ text, (words text).flatten = text.filter fun c => !Text.isSeparatorRun [c]) ∧
    (∀ before c after, Text.isSeparatorRun [c] = true →
      words (before ++ c :: after) = words before ++ words after) ∧
    ∀ before c d after, Text.isSeparatorRun [c] = false → Text.isSeparatorRun [d] = false →
      ∃ words₁ word word' words₂, words (before ++ [c]) = words₁ ++ [word] ∧
        words (d :: after) = word' :: words₂ ∧
        words (before ++ [c] ++ d :: after) = words₁ ++ (word ++ word') :: words₂ := by
  simp only [Text.isSeparatorRun_singleton]
  refine ⟨exists_spans, fun text word hword => (forall_mem_words text word hword).2, flatten_words,
    fun before c after hc => words_append_separator hc before after, ?_⟩
  exact fun before c d after hc hd => exists_words_append before after hc hd

/-- A hyphen keeps two words apart that are one without it. -/
theorem words_longest_hyphen :
    Text.isSeparatorRun ['-'] = true ∧ Text.isSeparatorRun ['b'] = false ∧
      Text.isSeparatorRun ['c'] = false ∧
      words ['a', 'b', '-', 'c', 'd'] = words ['a', 'b'] ++ words ['c', 'd'] ∧
      ∃ words₁ word word' words₂, words ['a', 'b'] = words₁ ++ [word] ∧
        words ['c', 'd'] = word' :: words₂ ∧
        words ['a', 'b', 'c', 'd'] = words₁ ++ (word ++ word') :: words₂ := by
  have hhyphen : Text.isSeparatorRun ['-'] = true := by decide
  have hb : Text.isSeparatorRun ['b'] = false := by decide
  have hc : Text.isSeparatorRun ['c'] = false := by decide
  obtain ⟨-, -, -, happend, hjoin⟩ := words_longest
  exact ⟨hhyphen, hb, hc, happend ['a', 'b'] '-' ['c', 'd'] hhyphen, hjoin ['a'] 'b' 'c' ['d'] hb hc⟩

end ScriptStats
