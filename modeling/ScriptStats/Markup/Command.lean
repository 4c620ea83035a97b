/-!
# Inline commands

An inline command stands between square brackets and holds none. A bracket right after a
backslash is text.
-/

namespace ScriptStats.Markup

namespace Command

/-- Reads up to the closing bracket; `escaped` tells whether a backslash stands right before. -/
def close? (escaped : Bool) : List Char → Option (List Char)
  | [] => none
  | c :: text =>
    if c = '[' then none
    else if c = ']' then if escaped then none else some text
    else close? (c = '\\') text

theorem close?_suffix {escaped : Bool} {text rest : List Char}
    (h : close? escaped text = some rest) : ']' :: rest <:+ text := by
  fun_induction close? escaped text with
  | case1 => simp at h
  | case2 => simp at h
  | case3 => simp at h
  | case4 _ text _ => cases h; exact List.suffix_rfl
  | case5 _ c text _ _ ih => exact (ih h).trans (List.suffix_cons c text)

/-- Drops the inline commands of a text; `escaped` is as for `close?`. -/
def stripFrom (escaped : Bool) : List Char → List Char
  | [] => []
  | c :: text =>
    if c = '[' ∧ escaped = false then
      match _found : close? false text with
      | some rest => stripFrom false rest
      | none => c :: stripFrom false text
    else c :: stripFrom (c = '\\') text
termination_by text => text.length
decreasing_by
  · have := (close?_suffix _found).length_le
    simp only [List.length_cons] at this ⊢
    omega
  · simp
  · simp

end Command

def stripCommands (text : List Char) : List Char :=
  Command.stripFrom false text

end ScriptStats.Markup
