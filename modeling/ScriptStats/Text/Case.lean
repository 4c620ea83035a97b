import ScriptStats.Text.CaseContext
import ScriptStats.Text.CaseTable
import ScriptStats.Text.CodePoint

/-!
# Lower case and case folding

`lower` writes a text in small letters; `foldCase` gives the key under which names that differ in
case alone sort together.
-/

namespace ScriptStats.Text

/-! ## Lower case -/

/-- The dotted capital I is the one letter that becomes two. -/
def lowerChar (c : Char) : List Char :=
  if c = '\u0130' then ['i', '\u0307'] else [Char.ofNat (CaseRun.apply lowerRuns c.toNat)]

def isCaseIgnorable (c : CodePoint) : Bool :=
  caseIgnorableRanges.contains c.number

def isCased (c : CodePoint) : Bool :=
  casedRanges.contains c.number

/-- Whether a text goes on with a letter of a word, seen past what does not interrupt the word. -/
def meetsLetter (text : RawText) : Bool :=
  ((text.dropWhile isCaseIgnorable).head?.map isCased).getD false

/-- The capital sigma has a small form of its own at the end of a word. -/
def lowerSigma (before after : RawText) : Char :=
  if meetsLetter before && !meetsLetter after then 'ς' else 'σ'

/-- Goes on behind `before`, which is given from its end. -/
def lowerFrom (before : RawText) : RawText → RawText
  | [] => []
  | .half n :: rest => .half n :: lowerFrom (.half n :: before) rest
  | .char c :: rest =>
    let small := if c = 'Σ' then [lowerSigma before rest] else lowerChar c
    RawText.ofChars small ++ lowerFrom (.char c :: before) rest

def lower (text : RawText) : RawText :=
  lowerFrom [] text

/-! ## Case folding -/

def foldChar (c : Char) : List Char :=
  match foldExpansions.lookup c.toNat with
  | some expansion => expansion.map Char.ofNat
  | none => [Char.ofNat (CaseRun.apply foldRuns c.toNat)]

def foldCase (text : List Char) : List Char :=
  text.flatMap foldChar

end ScriptStats.Text
