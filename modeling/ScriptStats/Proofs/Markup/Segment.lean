import ScriptStats.Markup.Command

/-!
# Command segments

What an inline command looks like, said without a scan, and the proof that stripping leaves a text
alone just when it holds none (`stripCommands_eq_self_iff`).
-/

namespace ScriptStats.Markup.Command

/-- Whether the character after `text` is escaped; `escaped` tells it for the start of `text`. -/
def escapedAfter (escaped : Bool) (text : List Char) : Bool :=
  (text.getLast?.map fun c => decide (c = '\\')).getD escaped

/-- A command stands between two brackets that are not escaped and holds no bracket. `escaped` is
about the first of the two. -/
def StartsCommand (escaped : Bool) (text : List Char) : Prop :=
  ∃ body after, text = '[' :: (body ++ ']' :: after) ∧ escaped = false ∧
    '[' ∉ body ∧ ']' ∉ body ∧ escapedAfter false body = false

def HoldsCommand (escaped : Bool) (text : List Char) : Prop :=
  ∃ before rest, text = before ++ rest ∧ StartsCommand (escapedAfter escaped before) rest

theorem escapedAfter_cons (escaped : Bool) (c : Char) (text : List Char) :
    escapedAfter escaped (c :: text) = escapedAfter (c = '\\') text := by
  rw [escapedAfter, escapedAfter, List.getLast?_cons]
  cases text.getLast? <;> rfl

theorem close?_eq_some_iff {escaped : Bool} {text rest : List Char} :
    close? escaped text = some rest ↔ ∃ body, text = body ++ ']' :: rest ∧ '[' ∉ body ∧
      ']' ∉ body ∧ escapedAfter escaped body = false := by
  constructor
  · intro h
    fun_induction close? escaped text with
    | case1 => simp at h
    | case2 => simp at h
    | case3 => simp at h
    | case4 escaped text hescaped hopen =>
      cases h
      exact ⟨[], rfl, by simp, by simp, by simpa [escapedAfter] using hescaped⟩
    | case5 escaped c text hopen hclose ih =>
      obtain ⟨body, rfl, hb₁, hb₂, hbody⟩ := ih h
      refine ⟨c :: body, rfl, ?_, ?_, by rwa [escapedAfter_cons]⟩
      · simpa using ⟨Ne.symm hopen, hb₁⟩
      · simpa using ⟨Ne.symm hclose, hb₂⟩
  · rintro ⟨body, rfl, hb₁, hb₂, hbody⟩
    induction body generalizing escaped with
    | nil =>
      have hescaped : escaped = false := by simpa [escapedAfter] using hbody
      simp [close?, hescaped]
    | cons c body ih =>
      simp only [List.mem_cons, not_or] at hb₁ hb₂
      rw [escapedAfter_cons] at hbody
      rw [List.cons_append, close?, if_neg (Ne.symm hb₁.1), if_neg (Ne.symm hb₂.1)]
      exact ih hb₁.2 hb₂.2 hbody

theorem stripFrom_sublist (escaped : Bool) (text : List Char) :
    (stripFrom escaped text).Sublist text := by
  fun_induction stripFrom escaped text with
  | case1 => exact List.Sublist.slnil
  | case2 escaped c text hopen rest hrest ih =>
    exact ih.trans ((List.suffix_cons ']' rest).trans (close?_suffix hrest)).sublist |>.cons c
  | case3 escaped c text hopen hnone ih => exact ih.cons_cons c
  | case4 escaped c text hopen ih => exact ih.cons_cons c

theorem holdsCommand_cons_iff {escaped : Bool} {c : Char} {text : List Char} :
    HoldsCommand escaped (c :: text) ↔
      StartsCommand escaped (c :: text) ∨ HoldsCommand (c = '\\') text := by
  constructor
  · rintro ⟨before, rest, htext, hrest⟩
    cases before with
    | nil => exact .inl (htext ▸ hrest)
    | cons d before =>
      obtain ⟨rfl, rfl⟩ := List.cons.inj htext
      rw [escapedAfter_cons] at hrest
      exact .inr ⟨before, rest, rfl, hrest⟩
  · rintro (h | ⟨before, rest, rfl, hrest⟩)
    · exact ⟨[], c :: text, rfl, h⟩
    · exact ⟨c :: before, rest, rfl, by rwa [escapedAfter_cons]⟩

theorem stripFrom_eq_self_iff {escaped : Bool} {text : List Char} :
    stripFrom escaped text = text ↔ ¬ HoldsCommand escaped text := by
  fun_induction stripFrom escaped text with
  | case1 =>
    refine iff_of_true rfl ?_
    rintro ⟨before, rest, h, body, after, rfl, -⟩
    simp at h
  | case2 escaped c text hopen rest hrest ih =>
    obtain ⟨rfl, rfl⟩ := hopen
    refine iff_of_false (fun h => ?_) (not_not_intro ?_)
    · have h₁ := (stripFrom_sublist false rest).length_le
      have h₂ := (close?_suffix hrest).length_le
      simp only [h, List.length_cons] at h₁ h₂
      omega
    · obtain ⟨body, rfl, hb₁, hb₂, hbody⟩ := close?_eq_some_iff.1 hrest
      exact ⟨[], _, rfl, body, rest, rfl, rfl, hb₁, hb₂, hbody⟩
  | case3 escaped c text hopen hnone ih =>
    obtain ⟨rfl, rfl⟩ := hopen
    rw [List.cons.injEq, ih, holdsCommand_cons_iff]
    have hhead : ¬ StartsCommand false ('[' :: text) := by
      rintro ⟨body, after, htext, -, hbody⟩
      obtain ⟨-, htext⟩ := List.cons.inj htext
      simp [close?_eq_some_iff.2 ⟨body, htext, hbody⟩] at hnone
    simp [hhead]
  | case4 escaped c text hopen ih =>
    rw [List.cons.injEq, ih, holdsCommand_cons_iff]
    have hhead : ¬ StartsCommand escaped (c :: text) := by
      rintro ⟨body, after, htext, hescaped, -⟩
      exact hopen ⟨(List.cons.inj htext).1, hescaped⟩
    simp [hhead]

end ScriptStats.Markup.Command
