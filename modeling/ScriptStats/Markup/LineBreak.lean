import ScriptStats.Markup.Construct
import ScriptStats.Markup.Tag

/-!
# Line breaks

A line break is a tag on its own, with or without a slash. Nothing of it is kept.
-/

namespace ScriptStats.Markup

namespace LineBreak

def find : List Char → Option (List Char × List Char)
  | '<' :: text =>
    (word? ['b', 'r'] text).bind fun tag =>
      match skipBlank tag with
      | '/' :: tag => (tagEnd? tag).map ([], ·)
      | tag => (tagEnd? tag).map ([], ·)
  | _ => none

theorem find_shorter {text kept rest : List Char} (h : find text = some (kept, rest)) :
    rest.length < text.length := by
  unfold find at h
  split at h
  next text =>
    obtain ⟨tag, htag, h⟩ := Option.bind_eq_some_iff.1 h
    have h₁ := (word?_suffix htag).length_le
    have h₂ := (skipBlank_suffix tag).length_le
    split at h
    next slashed heq =>
      obtain ⟨r, hr, h⟩ := Option.map_eq_some_iff.1 h
      cases h
      have h₃ := (tagEnd?_suffix hr).length_le
      rw [heq] at h₂
      simp only [List.length_cons] at h₂ h₃ ⊢
      omega
    next =>
      obtain ⟨r, hr, h⟩ := Option.map_eq_some_iff.1 h
      cases h
      have h₃ := (tagEnd?_suffix hr).length_le
      simp only [List.length_cons] at h₃ ⊢
      omega
  next => simp at h

end LineBreak

def lineBreak : Construct where
  find := LineBreak.find
  shorter := LineBreak.find_shorter

end ScriptStats.Markup
