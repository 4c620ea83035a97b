import ScriptStats.Markup.Normal
import ScriptStats.Proofs.Markup.Segment

/-!
# Where commands stand

The commands of a text by the positions of their two brackets. Since a command holds no bracket, no
two of them overlap, and the scan from left to right takes out all positions that lie in one and
no other (`strip_command_eq`).
-/

namespace ScriptStats.Markup

namespace Command

/-- Whether a backslash stands right before a position. -/
def IsEscaped (text : List Char) : Nat → Prop
  | 0 => False
  | i + 1 => text[i]? = some '\\'

/-- The brackets at `i` and `j` are those of a command. -/
structure Encloses (text : List Char) (i j : Nat) : Prop where
  lt : i < j
  opens : text[i]? = some '['
  opens_plain : ¬ IsEscaped text i
  closes : text[j]? = some ']'
  closes_plain : ¬ IsEscaped text j
  between : ∀ k, i < k → k < j → text[k]? ≠ some '[' ∧ text[k]? ≠ some ']'

/-- Whether a position lies in a command, the brackets included. -/
def IsCovered (text : List Char) (k : Nat) : Prop :=
  ∃ i j, Encloses text i j ∧ i ≤ k ∧ k ≤ j

section Decidable

variable (text : List Char)

instance : DecidablePred (IsEscaped text)
  | 0 => inferInstanceAs (Decidable False)
  | i + 1 => inferInstanceAs (Decidable (text[i]? = some '\\'))

instance (i j : Nat) : Decidable (Encloses text i j) :=
  decidable_of_iff (i < j ∧ text[i]? = some '[' ∧ ¬ IsEscaped text i ∧ text[j]? = some ']' ∧
      ¬ IsEscaped text j ∧ ∀ k < j, i < k → text[k]? ≠ some '[' ∧ text[k]? ≠ some ']')
    ⟨fun ⟨hlt, hopens, hplain, hcloses, hplain', hbetween⟩ =>
      ⟨hlt, hopens, hplain, hcloses, hplain', fun k hi hj => hbetween k hj hi⟩,
    fun h => ⟨h.lt, h.opens, h.opens_plain, h.closes, h.closes_plain,
      fun k hj hi => h.between k hi hj⟩⟩

theorem isCovered_iff_lt {text : List Char} {k : Nat} : IsCovered text k ↔
    ∃ j < text.length, ∃ i < j, Encloses text i j ∧ i ≤ k ∧ k ≤ j := by
  constructor
  · rintro ⟨i, j, h, hi, hj⟩
    obtain ⟨hlength, -⟩ := List.getElem?_eq_some_iff.1 h.closes
    exact ⟨j, hlength, i, h.lt, h, hi, hj⟩
  · rintro ⟨j, -, i, -, h, hi, hj⟩
    exact ⟨i, j, h, hi, hj⟩

instance : DecidablePred (IsCovered text) :=
  fun _ => decidable_of_iff _ isCovered_iff_lt.symm

end Decidable

/-- The characters that lie in no command, each with its position. -/
def uncovered (text : List Char) : List (Char × Nat) :=
  text.zipIdx.filter fun found => ¬ IsCovered text found.2

/-- The characters of `rest` that lie in no command of the whole text. -/
def uncoveredFrom (before rest : List Char) : List (Char × Nat) :=
  (rest.zipIdx before.length).filter fun found => ¬ IsCovered (before ++ rest) found.2

/-! ## Commands that begin at a position -/

theorem escapedAfter_append (escaped : Bool) (before text : List Char) :
    escapedAfter escaped (before ++ text) = escapedAfter (escapedAfter escaped before) text := by
  unfold escapedAfter
  rw [List.getLast?_append]
  cases text.getLast? <;> rfl

theorem escapedAfter_concat (escaped : Bool) (before : List Char) (c : Char) :
    escapedAfter escaped (before ++ [c]) = decide (c = '\\') := by
  simp [escapedAfter]

theorem isEscaped_length_append (before rest : List Char) :
    IsEscaped (before ++ rest) before.length ↔ escapedAfter false before = true := by
  rcases before.eq_nil_or_concat with rfl | ⟨start, c, rfl⟩
  · simp [IsEscaped, escapedAfter]
  · rw [List.concat_eq_append, escapedAfter_concat]
    simp [IsEscaped]

theorem getElem?_length_append (before rest : List Char) (n : Nat) :
    (before ++ rest)[before.length + n]? = rest[n]? := by
  rw [List.getElem?_append_right (Nat.le_add_right ..), Nat.add_sub_cancel_left]

theorem isEscaped_closing (before body after : List Char) :
    IsEscaped (before ++ '[' :: (body ++ ']' :: after)) (before.length + (body.length + 1)) ↔
      escapedAfter false body = true := by
  have h := isEscaped_length_append (before ++ '[' :: body) (']' :: after)
  rwa [escapedAfter_append, escapedAfter_cons, List.append_assoc, List.cons_append,
    List.length_append, List.length_cons] at h

/-- Brackets that the scan reads as a command are those of a command. -/
theorem encloses_body {before body : List Char} (after : List Char)
    (hbefore : escapedAfter false before = false) (hopen : '[' ∉ body) (hclose : ']' ∉ body)
    (hbody : escapedAfter false body = false) :
    Encloses (before ++ '[' :: (body ++ ']' :: after)) before.length
      (before.length + (body.length + 1)) where
  lt := by omega
  opens := by simp
  opens_plain := by simp [isEscaped_length_append, hbefore]
  closes := by simp
  closes_plain := by simp [isEscaped_closing, hbody]
  between k hi hj := by
    obtain ⟨n, rfl⟩ := Nat.exists_eq_add_of_lt hi
    rw [Nat.add_assoc, getElem?_length_append, List.getElem?_cons_succ,
      List.getElem?_append_left (by omega)]
    exact ⟨fun h => hopen (List.mem_of_getElem? h), fun h => hclose (List.mem_of_getElem? h)⟩

theorem exists_append_of_getElem? {text : List Char} {n : Nat} {c : Char}
    (h : text[n]? = some c) : ∃ before after, text = before ++ c :: after ∧ before.length = n := by
  obtain ⟨hlt, rfl⟩ := List.getElem?_eq_some_iff.1 h
  refine ⟨text.take n, text.drop (n + 1), ?_, List.length_take_of_le (Nat.le_of_lt hlt)⟩
  rw [← List.drop_eq_getElem_cons, List.take_append_drop]

/-- The brackets of a command are read as one by the scan. -/
theorem startsCommand_of_encloses {before rest : List Char} {j : Nat}
    (h : Encloses (before ++ rest) before.length j) :
    StartsCommand (escapedAfter false before) rest := by
  obtain ⟨n, rfl⟩ := Nat.exists_eq_add_of_lt h.lt
  rw [Nat.add_assoc] at h
  obtain ⟨tail, rfl⟩ : ∃ tail, rest = '[' :: tail := by
    have hopens := h.opens
    rw [← Nat.add_zero before.length, getElem?_length_append] at hopens
    obtain ⟨start, tail, rfl, hstart⟩ := exists_append_of_getElem? hopens
    exact ⟨tail, by rw [List.eq_nil_of_length_eq_zero hstart, List.nil_append]⟩
  have hcloses := h.closes
  rw [getElem?_length_append, List.getElem?_cons_succ] at hcloses
  obtain ⟨body, after, rfl, rfl⟩ := exists_append_of_getElem? hcloses
  have hbetween (k : Nat) (hk : k < body.length) : body[k]? ≠ some '[' ∧ body[k]? ≠ some ']' := by
    have h := h.between (before.length + (k + 1)) (by omega) (by omega)
    rwa [getElem?_length_append, List.getElem?_cons_succ, List.getElem?_append_left hk] at h
  refine ⟨body, after, rfl, ?_, fun hmem => ?_, fun hmem => ?_, ?_⟩
  · simpa [isEscaped_length_append] using h.opens_plain
  · obtain ⟨k, hk, hget⟩ := List.getElem_of_mem hmem
    exact (hbetween k hk).1 (List.getElem?_eq_some_iff.2 ⟨hk, hget⟩)
  · obtain ⟨k, hk, hget⟩ := List.getElem_of_mem hmem
    exact (hbetween k hk).2 (List.getElem?_eq_some_iff.2 ⟨hk, hget⟩)
  · simpa [isEscaped_closing] using h.closes_plain

/-! ## The scan -/

/-- No command reaches over the end of `before`. -/
def IsCut (before rest : List Char) : Prop :=
  ∀ i j, Encloses (before ++ rest) i j → i < before.length → j < before.length

theorem not_isCovered_of_isCut {before rest : List Char} (hcut : IsCut before rest)
    (hstart : ¬ StartsCommand (escapedAfter false before) rest) :
    ¬ IsCovered (before ++ rest) before.length := by
  rintro ⟨i, j, h, hi, hj⟩
  rcases Nat.lt_or_eq_of_le hi with hlt | rfl
  · exact absurd (hcut i j h hlt) (Nat.not_lt.2 hj)
  · exact hstart (startsCommand_of_encloses h)

theorem IsCut.cons {before rest : List Char} {c : Char} (hcut : IsCut before (c :: rest))
    (hstart : ¬ StartsCommand (escapedAfter false before) (c :: rest)) :
    IsCut (before ++ [c]) rest := by
  intro i j h hi
  rw [List.append_assoc, List.singleton_append] at h
  rw [List.length_append, List.length_singleton] at hi ⊢
  rcases Nat.lt_or_eq_of_le (Nat.le_of_lt_succ hi) with hlt | rfl
  · exact Nat.lt_succ_of_lt (hcut i j h hlt)
  · exact absurd (startsCommand_of_encloses h) hstart

/-- Behind a command nothing is under way, since its last bracket lies in no other. -/
theorem isCut_closed (before rest : List Char) : IsCut (before ++ [']']) rest := by
  intro i j h hi
  rw [List.append_assoc, List.singleton_append] at h
  rw [List.length_append, List.length_singleton] at hi ⊢
  refine Nat.lt_of_not_le fun hj => ?_
  have hbracket : (before ++ ']' :: rest)[before.length]? = some ']' := by simp
  rcases Nat.lt_or_eq_of_le (Nat.le_of_lt_succ hi) with hlt | rfl
  · exact (h.between before.length hlt hj).2 hbracket
  · rw [h.opens] at hbracket
    cases hbracket

theorem uncoveredFrom_cons {before text : List Char} {c : Char}
    (h : ¬ IsCovered (before ++ c :: text) before.length) : uncoveredFrom before (c :: text) =
      (c, before.length) :: uncoveredFrom (before ++ [c]) text := by
  rw [uncoveredFrom, uncoveredFrom, List.zipIdx_cons, List.filter_cons_of_pos (by simpa using h),
    List.append_assoc, List.singleton_append, List.length_append, List.length_singleton]

theorem uncoveredFrom_append {before piece text : List Char}
    (h : ∀ k, before.length ≤ k → k < before.length + piece.length →
      IsCovered (before ++ (piece ++ text)) k) :
    uncoveredFrom before (piece ++ text) = uncoveredFrom (before ++ piece) text := by
  have hpiece : ((piece.zipIdx before.length).filter fun found =>
      ¬ IsCovered (before ++ (piece ++ text)) found.2) = [] := by
    refine List.filter_eq_nil_iff.2 fun ⟨c, k⟩ hmem => ?_
    obtain ⟨hle, hlt, -⟩ := List.mem_zipIdx hmem
    simpa using h k hle hlt
  rw [uncoveredFrom, uncoveredFrom, List.zipIdx_append, List.filter_append, hpiece, List.nil_append,
    List.append_assoc, List.length_append]

theorem uncoveredFrom_command {before body rest : List Char}
    (h : Encloses (before ++ '[' :: (body ++ ']' :: rest)) before.length
      (before.length + (body.length + 1))) :
    uncoveredFrom before ('[' :: (body ++ ']' :: rest)) =
      uncoveredFrom (before ++ '[' :: body ++ [']']) rest := by
  have hpiece : '[' :: (body ++ ']' :: rest) = '[' :: body ++ [']'] ++ rest := by simp
  rw [List.append_assoc, hpiece]
  refine uncoveredFrom_append fun k hle hlt => ?_
  rw [List.length_append, List.length_cons, List.length_singleton] at hlt
  exact ⟨before.length, before.length + (body.length + 1), hpiece ▸ h, hle, by omega⟩

/-- The scan goes on after each command that it has found; `before` is what it has been through. -/
theorem stripFrom_eq_uncoveredFrom {before rest : List Char} (hcut : IsCut before rest)
    {escaped : Bool} (hescaped : escaped = escapedAfter false before) :
    stripFrom escaped rest = (uncoveredFrom before rest).map Prod.fst := by
  -- Either a command begins at the end of `before`, or the character there lies in none.
  fun_induction stripFrom escaped rest generalizing before with
  | case1 => rfl
  | case2 escaped c text hopen rest hrest ih =>
    obtain ⟨rfl, rfl⟩ := hopen
    obtain ⟨body, rfl, hb₁, hb₂, hbody⟩ := close?_eq_some_iff.1 hrest
    rw [uncoveredFrom_command (encloses_body rest hescaped.symm hb₁ hb₂ hbody)]
    exact ih (isCut_closed _ rest) (escapedAfter_concat false _ ']').symm
  | case3 escaped c text hopen hnone ih =>
    obtain ⟨rfl, rfl⟩ := hopen
    have hstart : ¬ StartsCommand (escapedAfter false before) ('[' :: text) := by
      rintro ⟨body, after, htext, -, hbody⟩
      obtain ⟨-, htext⟩ := List.cons.inj htext
      rw [close?_eq_some_iff.2 ⟨body, htext, hbody⟩] at hnone
      cases hnone
    rw [uncoveredFrom_cons (not_isCovered_of_isCut hcut hstart), List.map_cons,
      ih (hcut.cons hstart) (escapedAfter_concat false before '[').symm]
  | case4 escaped c text hopen ih =>
    have hstart : ¬ StartsCommand (escapedAfter false before) (c :: text) := by
      rintro ⟨body, after, htext, hplain, -⟩
      exact hopen ⟨(List.cons.inj htext).1, hescaped.trans hplain⟩
    rw [uncoveredFrom_cons (not_isCovered_of_isCut hcut hstart), List.map_cons,
      ih (hcut.cons hstart) (escapedAfter_concat false before c).symm]

theorem not_isCovered_of_isEscaped {text : List Char} {c : Char} {k : Nat}
    (hc : text[k]? = some c) (hbracket : c = '[' ∨ c = ']') (hescaped : IsEscaped text k) :
    ¬ IsCovered text k := by
  rintro ⟨i, j, h, hi, hj⟩
  rcases Nat.lt_or_eq_of_le hi with hi | rfl
  · rcases Nat.lt_or_eq_of_le hj with hj | rfl
    · rcases hbracket with rfl | rfl
      · exact (h.between k hi hj).1 hc
      · exact (h.between k hi hj).2 hc
    · exact h.closes_plain hescaped
  · exact h.opens_plain hescaped

end Command

/-- Stripping the commands of a text takes away just what stands in one, the brackets included, and
so no bracket right after a backslash. -/
theorem strip_command_eq (text : List Char) :
    strip .command text = (Command.uncovered text).map Prod.fst ∧
      ∀ c k, text[k]? = some c → c = '[' ∨ c = ']' → Command.IsEscaped text k →
        (c, k) ∈ Command.uncovered text := by
  constructor
  · have hcut : Command.IsCut [] text := fun _ _ _ hlt => absurd hlt (Nat.not_lt_zero _)
    exact Command.stripFrom_eq_uncoveredFrom hcut rfl
  · intro c k hc hbracket hescaped
    refine List.mem_filter.2 ⟨List.mem_zipIdx_iff_getElem?.2 hc, ?_⟩
    exact decide_eq_true (Command.not_isCovered_of_isEscaped hc hbracket hescaped)

/-- A bracket that is not closed before a command, another one right after a backslash, and at the
end a command that only a backslash keeps from closing. -/
theorem strip_command_eq_escaped :
    "a[b[c]d\\[e[f]g[h\\]".toList[8]? = some '[' ∧
      Command.IsEscaped "a[b[c]d\\[e[f]g[h\\]".toList 8 ∧
      ('[', 8) ∈ Command.uncovered "a[b[c]d\\[e[f]g[h\\]".toList ∧
      strip .command "a[b[c]d\\[e[f]g[h\\]".toList = "a[bd\\[eg[h\\]".toList := by
  have hbracket : "a[b[c]d\\[e[f]g[h\\]".toList[8]? = some '[' := by decide
  have hescaped : Command.IsEscaped "a[b[c]d\\[e[f]g[h\\]".toList 8 := by decide
  refine ⟨hbracket, hescaped, (strip_command_eq _).2 '[' 8 hbracket (.inl rfl) hescaped, ?_⟩
  rw [(strip_command_eq _).1]
  decide +kernel

end ScriptStats.Markup
