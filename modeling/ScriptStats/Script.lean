import ScriptStats.Dialogue
import ScriptStats.LineKind
import ScriptStats.Markup.Normal
import ScriptStats.Stats.Basic
import ScriptStats.Text.Utf8
import ScriptStats.Words

/-!
# Scripts

The statistics of a script come from its lines one by one. A byte order mark before the first line
is no part of it.
-/

namespace ScriptStats

/-- What one line adds to the statistics of its script. -/
inductive Line where
  | blank
  | script
  | dialogue (text : Dialogue)
  deriving DecidableEq, Repr

namespace Line

def ofText (line : List Char) : Line :=
  let kind := LineKind.ofLine line
  if kind.isScript then script
  else if kind.isSkipped then blank
  else dialogue (Dialogue.ofLine (Markup.normalize line))

def content : Line → List Char
  | dialogue d => d.content
  | _ => []

def speaker? : Line → Option String
  | dialogue d => d.speaker
  | _ => none

def words (line : Line) : List String :=
  (ScriptStats.words line.content).map String.ofList

def isScript : Line → Bool
  | script => true
  | _ => false

end Line

namespace Script

def byteOrderMark : Char := '\uFEFF'

def dropMark : List Char → List Char
  | c :: text => if c = byteOrderMark then text else c :: text
  | [] => []

def lines (text : List Char) : List Line :=
  (Text.lines (dropMark text)).map Line.ofText

def statsOfLines (lines : List Line) : FileStats where
  bodyChars := .ofNat (lines.flatMap Line.content).length
  wordCount := .ofNat (lines.flatMap Line.words).length
  speakers := NameSet.ofList (lines.filterMap Line.speaker?)
  words := lines.flatMap Line.words
  scriptLines := .ofNat (lines.countP Line.isScript)

def stats (text : List Char) : FileStats :=
  statsOfLines (lines text)

/-- The text of a script file. -/
def decode (bytes : Bytes) : Except Text.Utf8.Fault (List Char) :=
  Text.Utf8.decode bytes

end Script

end ScriptStats
