import Mathlib.Data.List.DropRight
import ScriptStats.Proofs.Markup.Tag

/-!
# Trimming

What is trimmed off a text stands at its two ends, and nothing more can be trimmed off what is left.
-/

namespace ScriptStats.Text

variable {p : Char → Bool}

theorem trimBy_append_left {before : List Char} (hbefore : ∀ c ∈ before, p c = true)
    (text : List Char) : trimBy p (before ++ text) = trimBy p text := by
  rw [trimBy, trimBy, List.dropWhile_append_of_pos hbefore]

theorem trimBy_append_right {after : List Char} (hafter : ∀ c ∈ after, p c = true)
    (text : List Char) : trimBy p (text ++ after) = trimBy p text := by
  have hall : after.dropWhile p = [] := List.dropWhile_eq_nil_iff.2 hafter
  have hback : ∀ c ∈ after.reverse, p c = true := fun c hc => hafter c (List.mem_reverse.1 hc)
  rw [trimBy, trimBy, List.dropWhile_append]
  split
  next htext => rw [List.isEmpty_iff.1 htext, hall]
  next => rw [List.reverse_append, List.dropWhile_append_of_pos hback]

/-- A text that begins with something else is trimmed at its end alone. -/
theorem trimBy_cons {c : Char} (hc : p c = false) (text : List Char) :
    trimBy p (c :: text) = (c :: text).rdropWhile p := by
  rw [trimBy, List.dropWhile_cons_of_neg (by simp [hc])]
  rfl

theorem rdropWhile_append_cons {c : Char} (hc : p c = false) (before text : List Char) :
    (before ++ c :: text).rdropWhile p = before ++ c :: text.rdropWhile p := by
  induction text using List.reverseRecOn with
  | nil => simp [hc]
  | append_singleton text d ih =>
    rw [← List.cons_append, ← List.append_assoc]
    by_cases hd : p d = true
    · rw [List.rdropWhile_concat_pos p _ _ hd, List.rdropWhile_concat_pos p _ _ hd, ih]
    · rw [List.rdropWhile_concat_neg p _ _ hd, List.rdropWhile_concat_neg p _ _ hd]
      simp

theorem trimBy_rdropWhile (text : List Char) : trimBy p (text.rdropWhile p) = trimBy p text := by
  have hback : ∀ c ∈ text.rtakeWhile p, p c = true := fun _ => List.mem_rtakeWhile_imp
  rw [← trimBy_append_right hback, List.rdropWhile_append_rtakeWhile]

theorem trimBy_trimBy (p : Char → Bool) (text : List Char) :
    trimBy p (trimBy p text) = trimBy p text := by
  have hfront : trimBy p text = (text.dropWhile p).rdropWhile p := rfl
  cases hdrop : text.dropWhile p with
  | nil => rw [hfront, hdrop, List.rdropWhile_nil]; rfl
  | cons c rest =>
    have hc : p c = false := Markup.eq_false_of_dropWhile_eq_cons hdrop
    have hkept : (c :: rest).rdropWhile p = c :: rest.rdropWhile p :=
      rdropWhile_append_cons hc [] rest
    rw [hfront, hdrop, hkept, trimBy_cons hc, ← hkept, List.rdropWhile_idempotent]

end ScriptStats.Text
