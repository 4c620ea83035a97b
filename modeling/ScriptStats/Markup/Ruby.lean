import ScriptStats.Markup.Construct
import ScriptStats.Markup.Tag
import ScriptStats.Text.WordChar

/-!
# Ruby

A ruby element gives a reading for its text. The text is kept and the reading dropped. An element
that holds another one waits until that one is gone.
-/

namespace ScriptStats.Markup

namespace Ruby

open Text

def name : List Char := ['r', 'u', 'b', 'y']

/-- Reads the closing tag. -/
def close? : List Char → Option (List Char)
  | '<' :: '/' :: text => (word? name text).bind tagEnd?
  | _ => none

/-- Whether a ruby tag begins here: the name must not go on. -/
def opens : List Char → Bool
  | '<' :: text =>
    match word? name text with
    | some (c :: _) => !isWordChar c
    | some [] => true
    | none => false
  | _ => false

/-- The text up to the closing tag and what follows the tag. -/
def body? : List Char → Option (List Char × List Char) :=
  enclosed? close? opens

def find : List Char → Option (List Char × List Char)
  | '<' :: text => (word? name text).bind fun tag => (assignmentEnds tag).findSome? body?
  | _ => none

theorem close?_suffix {text rest : List Char} (h : close? text = some rest) :
    '>' :: rest <:+ text := by
  unfold close? at h
  split at h
  next text =>
    obtain ⟨tag, htag, h⟩ := Option.bind_eq_some_iff.1 h
    exact (tagEnd?_suffix h).trans <| (word?_suffix htag).trans <|
      (List.suffix_cons '/' text).trans (List.suffix_cons '<' _)
  next => simp at h

theorem body?_suffix {text kept rest : List Char} (h : body? text = some (kept, rest)) :
    '>' :: rest <:+ text :=
  enclosed?_suffix close?_suffix h

theorem find_shorter {text kept rest : List Char} (h : find text = some (kept, rest)) :
    rest.length < text.length := by
  unfold find at h
  split at h
  next text =>
    obtain ⟨tag, htag, h⟩ := Option.bind_eq_some_iff.1 h
    obtain ⟨inner, hinner, h⟩ := List.exists_of_findSome?_eq_some h
    have h₁ := (body?_suffix h).length_le
    have h₂ := (suffix_of_mem_assignmentEnds hinner).length_le
    have h₃ := (word?_suffix htag).length_le
    simp only [List.length_cons] at h₁ h₂ ⊢
    omega
  next => simp at h

end Ruby

def ruby : Construct where
  find := Ruby.find
  shorter := Ruby.find_shorter

end ScriptStats.Markup
