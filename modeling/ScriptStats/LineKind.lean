import ScriptStats.Text.Blank
import ScriptStats.Text.Quoted

/-!
# Kinds of lines

The first character of a line that is not blank tells what kind of line it is. Only content lines
hold dialogue; commands, labels and comments are script lines.
-/

namespace ScriptStats

inductive LineKind where
  | content
  | blank
  | command
  | label
  | comment
  deriving DecidableEq, Repr

namespace LineKind

def all : List LineKind := [content, blank, command, label, comment]

def name : LineKind → String
  | content => "content"
  | blank => "blank"
  | command => "command"
  | label => "label"
  | comment => "comment"

def ofName? (name : String) : Option LineKind :=
  all.find? (·.name = name)

/-- The wording for a name that no kind bears. -/
def unknownName (name : String) : String :=
  Text.quoted name ++ " is not a valid LineKind"

/-- Lines without dialogue are skipped. -/
def isSkipped (kind : LineKind) : Bool := kind ≠ content

def isScript (kind : LineKind) : Bool :=
  kind = command || kind = label || kind = comment

/-- The kind of line that a character begins. -/
def ofSigil (c : Char) : LineKind :=
  if c = '@' then command else if c = '#' then label else if c = ';' then comment else content

def ofLine (line : List Char) : LineKind :=
  match Text.trim line with
  | [] => blank
  | c :: _ => ofSigil c

end LineKind

end ScriptStats
