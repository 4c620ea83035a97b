import ScriptStats.Markup.Construct
import ScriptStats.Markup.Tag
import ScriptStats.Text.WordChar

/-!
# Format tags

Format tags come in pairs of one name, and the text between them is kept. A pair is taken only if
no format tag stands between its two tags, so pairs go from the inside out.
-/

namespace ScriptStats.Markup

namespace Format

open Text

/-- The names of the format tags. -/
def names : List (List Char) :=
  ["alpha", "b", "color", "cspace", "font", "i", "indent", "line-height", "link", "lowercase",
   "margin", "mark", "mspace", "nobr", "noparse", "pos", "rotate", "s", "size", "smallcaps",
   "style", "sub", "sup", "u", "uppercase", "voffset", "width"].map String.toList

/-- The letter under which the names of two tags of a pair are compared. The long s and the
dotless i keep to themselves. -/
def pairLetter (c : Char) : Char :=
  if c = '\u212A' then 'k' else if c = '\u0130' then 'i' else c.toLower

/-- Reads the name `opened` of an opening tag once more. -/
def again? : List Char → List Char → Option (List Char)
  | [], text => some text
  | _ :: _, [] => none
  | o :: opened, c :: text => if pairLetter o = pairLetter c then again? opened text else none

/-- Reads the closing tag of a pair. -/
def close? (opened : List Char) : List Char → Option (List Char)
  | '<' :: '/' :: text => (again? opened text).bind tagEnd?
  | _ => none

/-- Whether the name of a format tag stands here and does not go on. -/
def namesTag (text : List Char) : Bool :=
  names.any fun name =>
    match word? name text with
    | some (c :: _) => !(isWordChar c || c = '-')
    | some [] => true
    | none => false

/-- Whether a format tag begins here, opening or closing. -/
def beginsTag : List Char → Bool
  | '<' :: '/' :: text => namesTag text
  | '<' :: text => namesTag text
  | _ => false

/-- The text up to the closing tag and what follows the tag. -/
def body? (opened : List Char) : List Char → Option (List Char × List Char) :=
  enclosed? (close? opened) beginsTag

/-- The ways to read what follows the name of an opening tag. -/
def openEnds (text : List Char) : List (List Char) :=
  assignmentEnds text ++ (tagEnd? text).toList

def find : List Char → Option (List Char × List Char)
  | '<' :: text =>
    names.findSome? fun name =>
      (word? name text).bind fun tag =>
        (openEnds tag).findSome? (body? (text.take name.length))
  | _ => none

theorem again?_suffix {opened text rest : List Char} (h : again? opened text = some rest) :
    rest <:+ text := by
  fun_induction again? opened text with
  | case1 => simp_all
  | case2 => simp at h
  | case3 o opened c text _ ih => exact (ih h).trans (List.suffix_cons c text)
  | case4 => simp at h

theorem close?_suffix {opened text rest : List Char} (h : close? opened text = some rest) :
    '>' :: rest <:+ text := by
  unfold close? at h
  split at h
  next text =>
    obtain ⟨tag, htag, h⟩ := Option.bind_eq_some_iff.1 h
    exact (tagEnd?_suffix h).trans <| (again?_suffix htag).trans <|
      (List.suffix_cons '/' text).trans (List.suffix_cons '<' _)
  next => simp at h

theorem body?_suffix {opened text kept rest : List Char}
    (h : body? opened text = some (kept, rest)) : '>' :: rest <:+ text :=
  enclosed?_suffix close?_suffix h

theorem suffix_of_mem_openEnds {text rest : List Char} (h : rest ∈ openEnds text) :
    '>' :: rest <:+ text := by
  simp only [openEnds, List.mem_append, Option.mem_toList] at h
  rcases h with h | h
  · exact suffix_of_mem_assignmentEnds h
  · exact tagEnd?_suffix h

theorem find_shorter {text kept rest : List Char} (h : find text = some (kept, rest)) :
    rest.length < text.length := by
  unfold find at h
  split at h
  next text =>
    obtain ⟨name, _, h⟩ := List.exists_of_findSome?_eq_some h
    obtain ⟨tag, htag, h⟩ := Option.bind_eq_some_iff.1 h
    obtain ⟨inner, hinner, h⟩ := List.exists_of_findSome?_eq_some h
    have h₁ := (body?_suffix h).length_le
    have h₂ := (suffix_of_mem_openEnds hinner).length_le
    have h₃ := (word?_suffix htag).length_le
    simp only [List.length_cons] at h₁ h₂ ⊢
    omega
  next => simp at h

end Format

def format : Construct where
  find := Format.find
  shorter := Format.find_shorter

end ScriptStats.Markup
