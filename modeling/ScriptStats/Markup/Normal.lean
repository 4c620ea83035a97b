import ScriptStats.Markup.Command
import ScriptStats.Markup.Format
import ScriptStats.Markup.LineBreak
import ScriptStats.Markup.Ruby

/-!
# Normal text

A line is normal when no markup is left to strip. One pass strips the four kinds of markup in
turn; since that may bring new markup together, passes go on until one finds nothing.
-/

namespace ScriptStats.Markup

/-- The four kinds of markup that are stripped. -/
inductive Kind where
  | ruby
  | lineBreak
  | command
  | format
  deriving DecidableEq, Repr

/-- Strips the markup of one kind once. -/
def strip : Kind → List Char → List Char
  | .ruby => ruby.strip
  | .lineBreak => lineBreak.strip
  | .command => stripCommands
  | .format => format.strip

def pass (text : List Char) : List Char :=
  strip .format (strip .command (strip .lineBreak (strip .ruby text)))

/-- A pass that finds something makes the text shorter. -/
def normalize (text : List Char) : List Char :=
  if (pass text).length < text.length then normalize (pass text) else text
termination_by text.length

end ScriptStats.Markup
