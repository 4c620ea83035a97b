import ScriptStats.Json.Parser

/-!
# Texts with halves of surrogate pairs

A text that was not written in UTF-8 may hold halves of surrogate pairs. It is read with characters
that do not occur in it in place of them, and afterwards the halves are put back.
-/

namespace ScriptStats.Json

mutual

/-- Changes all names and texts. -/
def mapTexts (f : RawText → RawText) : Json → Json
  | string s => string (f s)
  | array items => array (mapItemTexts f items)
  | object fields => object (mapFieldTexts f fields)
  | value => value

def mapItemTexts (f : RawText → RawText) : List Json → List Json
  | [] => []
  | item :: items => mapTexts f item :: mapItemTexts f items

def mapFieldTexts (f : RawText → RawText) : List (RawText × Json) → List (RawText × Json)
  | [] => []
  | (name, value) :: fields => (f name, mapTexts f value) :: mapFieldTexts f fields

end

/-- Whether a character is one of those that stand for halves, from `base` on. -/
def standsForHalf (base : Nat) (c : CodePoint) : Bool :=
  base ≤ c.number && c.number < base + surrogateCount

/-- Where characters for private use begin that do not occur in the text, one for every half. -/
def standInBase? (text : RawText) : Option Nat :=
  ((List.range 64).map fun n => 0xF0000 + n * surrogateCount).find? fun base =>
    !text.any (standsForHalf base)

def hideHalf (base : Nat) : CodePoint → Char
  | .char c => c
  | .half n => Char.ofNat (base + n.val)

def showHalf (base : Nat) (c : CodePoint) : CodePoint :=
  if standsForHalf base c then .ofNumber (CodePoint.firstSurrogate + (c.number - base)) else c

/-- Reads a text that may hold halves. -/
def parseRaw (depth : Nat) (text : RawText) : Except ReadError Json :=
  match if text.isText then none else standInBase? text with
  | none => parse depth text.chars
  | some base =>
    (parse depth (text.map (hideHalf base))).map (mapTexts (List.map (showHalf base)))

end ScriptStats.Json
