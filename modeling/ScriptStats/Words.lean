import ScriptStats.Text.Lines
import ScriptStats.Text.Separator

/-!
# Words

The words of a text are its longest runs without a separator. Hyphens separate, and a text without
spaces breaks at its punctuation alone.
-/

namespace ScriptStats

def words (text : List Char) : List (List Char) :=
  (Text.pieces Text.isSeparator text).filter (· ≠ [])

end ScriptStats
