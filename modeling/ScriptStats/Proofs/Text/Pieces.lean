import ScriptStats.Text.Lines

/-!
# Cutting texts into pieces

A mark cuts a text in two, and texts without marks that were joined by a mark are its pieces again.
-/

namespace ScriptStats.Text

variable {α : Type} {isMark : α → Bool}

theorem pieces_ne_nil (isMark : α → Bool) (text : List α) : pieces isMark text ≠ [] := by
  cases text with
  | nil => exact List.cons_ne_nil _ _
  | cons c text =>
    unfold pieces
    split
    next => exact List.cons_ne_nil _ _
    next => split <;> exact List.cons_ne_nil _ _

/-- A mark cuts a text in two. -/
theorem pieces_append {mark : α} (h : isMark mark = true) (before after : List α) :
    pieces isMark (before ++ mark :: after) = pieces isMark before ++ pieces isMark after := by
  induction before with
  | nil => simp [pieces, h]
  | cons c before ih =>
    rw [List.cons_append, pieces, pieces, ih]
    by_cases hc : isMark c = true
    · simp [hc]
    · obtain ⟨piece, more, hpieces⟩ := List.exists_cons_of_ne_nil (pieces_ne_nil isMark before)
      simp [hc, hpieces]

theorem pieces_eq_singleton {text : List α} (h : ∀ c ∈ text, isMark c = false) :
    pieces isMark text = [text] := by
  induction text with
  | nil => rfl
  | cons c text ih =>
    rw [List.forall_mem_cons] at h
    rw [pieces, ih h.2, h.1]
    rfl

theorem pieces_intercalate {mark : α} (hmark : isMark mark = true) {parts : List (List α)}
    (hparts : parts ≠ []) (h : ∀ part ∈ parts, ∀ c ∈ part, isMark c = false) :
    pieces isMark ([mark].intercalate parts) = parts := by
  induction parts with
  | nil => exact absurd rfl hparts
  | cons part parts ih =>
    rw [List.forall_mem_cons] at h
    cases parts with
    | nil => rw [List.intercalate_singleton, pieces_eq_singleton h.1]
    | cons next parts =>
      rw [List.intercalate_cons_cons, List.append_assoc, List.singleton_append,
        pieces_append hmark, pieces_eq_singleton h.1, ih (List.cons_ne_nil _ _) h.2]
      rfl

variable (isMark)

theorem pieces_mark {mark : α} (h : isMark mark = true) (text : List α) :
    pieces isMark (mark :: text) = [] :: pieces isMark text := by
  rw [pieces, if_pos h]

theorem pieces_cons {c : α} (h : isMark c = false) {text piece : List α} {more : List (List α)}
    (hpieces : pieces isMark text = piece :: more) :
    pieces isMark (c :: text) = (c :: piece) :: more := by
  rw [pieces, h, if_neg Bool.false_ne_true, hpieces]

/-- The first piece begins as the text does, unless the text begins with a mark. -/
theorem head?_eq_some_iff_pieces {c : α} (h : isMark c = false) {text : List α} :
    text.head? = some c ↔ ∃ piece more, pieces isMark text = (c :: piece) :: more := by
  cases text with
  | nil => simp [pieces]
  | cons d text =>
    obtain ⟨piece, more, hpieces⟩ := List.exists_cons_of_ne_nil (pieces_ne_nil isMark text)
    cases hd : isMark d with
    | true =>
      have hne : d ≠ c := by
        rintro rfl
        rw [h] at hd
        cases hd
      simp [pieces_mark isMark hd, hne]
    | false => simp [pieces_cons isMark hd hpieces]

variable {isMark} in
/-- The pieces grow from the end of the text: a mark opens a new one, and any other character joins the
first. -/
theorem pieces_induction {P : List α → List (List α) → Prop} (nil : P [] [[]])
    (mark : ∀ c text pieces, isMark c = true → P text pieces → P (c :: text) ([] :: pieces))
    (join : ∀ c text piece more, isMark c = false → P text (piece :: more) →
      P (c :: text) ((c :: piece) :: more)) (text : List α) : P text (pieces isMark text) := by
  induction text with
  | nil => exact nil
  | cons c text ih =>
    cases hc : isMark c with
    | true =>
      rw [pieces_mark isMark hc]
      exact mark c text _ hc ih
    | false =>
      obtain ⟨piece, more, hpieces⟩ := List.exists_cons_of_ne_nil (pieces_ne_nil isMark text)
      rw [pieces_cons isMark hc hpieces]
      exact join c text piece more hc (hpieces ▸ ih)

/-- There is no mark in a piece. -/
theorem forall_mem_pieces (text : List α) :
    ∀ piece ∈ pieces isMark text, ∀ c ∈ piece, isMark c = false := by
  refine @pieces_induction _ isMark (fun _ pieces => ∀ piece ∈ pieces, ∀ c ∈ piece, isMark c = false)
    (by simp) (fun c text pieces _ ih => ?_) (fun c text piece more hc ih => ?_) text
  · exact List.forall_mem_cons.2 ⟨fun _ h => absurd h List.not_mem_nil, ih⟩
  · obtain ⟨hpiece, hmore⟩ := List.forall_mem_cons.1 ih
    exact List.forall_mem_cons.2 ⟨List.forall_mem_cons.2 ⟨hc, hpiece⟩, hmore⟩

/-- The pieces together are the text without its marks. -/
theorem flatten_pieces (text : List α) :
    (pieces isMark text).flatten = text.filter fun c => !isMark c := by
  refine @pieces_induction _ isMark (fun text pieces => pieces.flatten = text.filter fun c => !isMark c)
    rfl (fun c text pieces hc ih => ?_) (fun c text piece more hc ih => ?_) text
  · simp [hc, ih]
  · rw [List.flatten_cons] at ih
    simp [hc, ← ih]

/-- There is one piece more than there are marks. -/
theorem length_pieces (text : List α) : (pieces isMark text).length = text.countP isMark + 1 := by
  refine @pieces_induction _ isMark (fun text pieces => pieces.length = text.countP isMark + 1) rfl
    (fun c text pieces hc ih => ?_) (fun c text piece more hc ih => ?_) text
  · rw [List.countP_cons_of_pos hc, List.length_cons, ih]
  · rw [List.countP_cons_of_neg (by simp [hc]), ← ih]
    rfl

end ScriptStats.Text
