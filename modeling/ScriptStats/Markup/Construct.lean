/-!
# Constructs

A construct of the markup is found at the front of a text. It leaves a part of itself behind and
ends before the rest of the text. Stripping takes every occurrence from left to right and does
not look again at what it has left behind.
-/

namespace ScriptStats.Markup

structure Construct where
  /-- What is kept of the construct and what follows it. -/
  find : List Char → Option (List Char × List Char)
  shorter : ∀ {text kept rest}, find text = some (kept, rest) → rest.length < text.length

def Construct.strip (construct : Construct) : List Char → List Char
  | [] => []
  | c :: text =>
    match _found : construct.find (c :: text) with
    | some (kept, rest) => kept ++ construct.strip rest
    | none => c :: construct.strip text
termination_by text => text.length
decreasing_by
  · exact construct.shorter _found
  · simp

/-- The text up to the first place where `close?` reads a closing tag, and what follows that tag.
There is none if a tag begins before. -/
def enclosed? (close? : List Char → Option (List Char)) (begins : List Char → Bool) :
    List Char → Option (List Char × List Char)
  | [] => none
  | c :: text =>
    match close? (c :: text) with
    | some rest => some ([], rest)
    | none =>
      if begins (c :: text) then none
      else (enclosed? close? begins text).map fun (kept, rest) => (c :: kept, rest)

theorem enclosed?_suffix {close? : List Char → Option (List Char)} {begins : List Char → Bool}
    (hclose : ∀ {text rest}, close? text = some rest → '>' :: rest <:+ text)
    {text kept rest : List Char} (h : enclosed? close? begins text = some (kept, rest)) :
    '>' :: rest <:+ text := by
  fun_induction enclosed? close? begins text generalizing kept with
  | case1 => simp at h
  | case2 c text r hc => cases h; exact hclose hc
  | case3 => simp at h
  | case4 c text _ _ ih =>
    obtain ⟨⟨k, r⟩, hk, h⟩ := Option.map_eq_some_iff.1 h
    cases h
    exact (ih hk).trans (List.suffix_cons c text)

end ScriptStats.Markup
