import ScriptStats.Text.Blank

/-!
# Tags

The parts that tags are made of, each read from the front of a text. A reader gives what follows
the part it has read. Tag names are read in either case.
-/

namespace ScriptStats.Markup

open Text

/-- Whether `c` stands for the small letter `letter` of a tag name. Besides the capital these are
the long s, the Kelvin sign and the dotted and dotless letters i. -/
def sameLetter (letter c : Char) : Bool :=
  c.toLower = letter
    || (letter = 's' && c = '\u017F')
    || (letter = 'k' && c = '\u212A')
    || (letter = 'i' && (c = '\u0130' || c = '\u0131'))

def skipBlank (text : List Char) : List Char :=
  text.dropWhile isBlank

/-- Reads `word`, which is written in small letters. -/
def word? : List Char → List Char → Option (List Char)
  | [], text => some text
  | _ :: _, [] => none
  | letter :: word, c :: text => if sameLetter letter c then word? word text else none

/-- Reads the end of a tag, with blanks before it. -/
def tagEnd? (text : List Char) : Option (List Char) :=
  match skipBlank text with
  | '>' :: rest => some rest
  | _ => none

/-- Reads a value between quotes and the end of the tag. -/
def quotedEnd? : List Char → Option (List Char)
  | [] => none
  | quote :: text =>
    if quote = '"' ∨ quote = '\'' then
      match text.dropWhile (· ≠ quote) with
      | [] => none
      | _ :: rest => tagEnd? rest
    else none

/-- Reads a value without quotes, or none, and the end of the tag. -/
def bareEnd? (text : List Char) : Option (List Char) :=
  match text.dropWhile fun c => c ≠ '<' ∧ c ≠ '>' with
  | '>' :: rest => some rest
  | _ => none

/-- The ways to read a value and the end of its tag, the preferred one first. A text that begins
with a quote may have two: up to the other quote, or up to the first angle bracket. -/
def valueEnds (text : List Char) : List (List Char) :=
  (quotedEnd? text).toList ++ (bareEnd? text).toList

/-- The ways to read an equals sign, a value and the end of the tag. -/
def assignmentEnds (text : List Char) : List (List Char) :=
  match skipBlank text with
  | '=' :: rest => valueEnds (skipBlank rest)
  | _ => []

/-! ## What is left is an end piece -/

theorem skipBlank_suffix (text : List Char) : skipBlank text <:+ text :=
  List.dropWhile_suffix _

theorem word?_suffix {word text rest : List Char} (h : word? word text = some rest) :
    rest <:+ text := by
  fun_induction word? word text with
  | case1 => simp_all
  | case2 => simp at h
  | case3 letter word c text _ ih => exact (ih h).trans (List.suffix_cons c text)
  | case4 => simp at h

theorem tagEnd?_suffix {text rest : List Char} (h : tagEnd? text = some rest) :
    '>' :: rest <:+ text := by
  unfold tagEnd? at h
  split at h
  next r hr => cases h; exact hr ▸ skipBlank_suffix text
  next => simp at h

theorem quotedEnd?_suffix {text rest : List Char} (h : quotedEnd? text = some rest) :
    '>' :: rest <:+ text := by
  unfold quotedEnd? at h
  split at h
  next => simp at h
  next quote text =>
    split at h
    next =>
      split at h
      next => simp at h
      next c r hr =>
        have hs : c :: r <:+ text := hr ▸ List.dropWhile_suffix _
        exact (tagEnd?_suffix h).trans <| (List.suffix_cons c r).trans <| hs.trans
          (List.suffix_cons quote text)
    next => simp at h

theorem bareEnd?_suffix {text rest : List Char} (h : bareEnd? text = some rest) :
    '>' :: rest <:+ text := by
  unfold bareEnd? at h
  split at h
  next r hr => cases h; exact hr ▸ List.dropWhile_suffix _
  next => simp at h

theorem suffix_of_mem_valueEnds {text rest : List Char} (h : rest ∈ valueEnds text) :
    '>' :: rest <:+ text := by
  simp only [valueEnds, List.mem_append, Option.mem_toList] at h
  rcases h with h | h
  · exact quotedEnd?_suffix h
  · exact bareEnd?_suffix h

theorem suffix_of_mem_assignmentEnds {text rest : List Char} (h : rest ∈ assignmentEnds text) :
    '>' :: rest <:+ text := by
  unfold assignmentEnds at h
  split at h
  next r hr =>
    have hs : '=' :: r <:+ text := hr ▸ skipBlank_suffix text
    exact (suffix_of_mem_valueEnds h).trans <| (skipBlank_suffix r).trans <|
      (List.suffix_cons '=' r).trans hs
  next => simp at h

end ScriptStats.Markup
