import ScriptStats.Text.Blank

/-!
# Dialogue

A line of dialogue names its speaker before a colon; any other line is narration. A speaker's name
holds neither blanks nor colons.
-/

namespace ScriptStats

structure Dialogue where
  speaker : Option String
  content : List Char
  deriving DecidableEq, Repr

namespace Dialogue

open Text

def inName (c : Char) : Bool :=
  c ≠ ':' && !isBlank c

/-- Reads a line whose ends are not blank. -/
def ofTrimmed (line : List Char) : Dialogue :=
  let name := line.takeWhile inName
  match (line.dropWhile inName).dropWhile isBlank with
  | ':' :: content => if name = [] then ⟨none, line⟩ else ⟨some (String.ofList name), trim content⟩
  | _ => ⟨none, line⟩

def ofLine (line : List Char) : Dialogue :=
  ofTrimmed (trim line)

end Dialogue

end ScriptStats
