import ScriptStats.Report.Rows

/-!
# Text reports

A report names what it is about and gives the totals. Speakers, unique words and the rows of a
tree follow after an empty line each, when there are any to show.
-/

namespace ScriptStats

/-- The totals of a report, as they are written. -/
structure Summary where
  bodyChars : String
  words : String
  speakers : String
  speakerChars : String
  scriptLines : String
  files : String
  deriving DecidableEq, Repr

open Report in
def Stats.summary (stats : Stats) : Summary where
  bodyChars := countText stats.bodyChars.value
  words := countText stats.wordCount.value
  speakers := countText stats.speakers.size
  speakerChars := countText stats.speakerChars
  scriptLines := countText stats.scriptLines.value
  files := countText stats.fileCount

namespace Report

def line (text : String) : String :=
  text ++ "\n"

def heading (label : String) : String :=
  line ("nanistats report: " ++ label)

def totals (s : Summary) : String :=
  line ("Dialogue characters : " ++ s.bodyChars)
    ++ line ("Words               : " ++ s.words)
    ++ line ("Unique speakers     : " ++ s.speakers ++ " (" ++ s.speakerChars ++ " characters)")
    ++ line ("Script lines        : " ++ s.scriptLines)
    ++ line ("Files               : " ++ s.files)

def speakersPart (speakers : List String) : String :=
  if speakers = [] then "" else line "" ++ line ("Speakers: " ++ ", ".intercalate speakers)

def wordsPart : Option (List String) → String
  | none => ""
  | some words =>
    line "" ++ line ("Unique words (" ++ toString words.length ++ "): " ++ " ".intercalate words)

def rowText (row : Row) : String :=
  line (String.join (List.replicate row.depth "  ") ++ row.label ++ "  " ++ row.bodyChars
    ++ " chars, " ++ row.words ++ " words, " ++ row.speakers ++ " speakers")

def rowsPart (rows : List Row) : String :=
  if rows = [] then "" else line "" ++ String.join (rows.map rowText)

def text (label : String) (stats : Stats) (rows : List Row) (unique : Bool) : String :=
  heading label ++ totals stats.summary ++ speakersPart stats.speakers.toList
    ++ wordsPart (if unique then some stats.uniqueWords else none) ++ rowsPart rows

/-- The report on a tree, with or without its rows. -/
def ofTree (label : String) (node : Node) (unique showTree : Bool) : String :=
  text label node.stats (if showTree then rows node false else []) unique

/-- The report on a single script. -/
def ofStats (label : String) (stats : Stats) (unique : Bool) : String :=
  text label stats [] unique

/-- The report on a directory that is not there. -/
def unavailable (label : String) : String :=
  heading label ++ line "Analysis unavailable: workspace not found."

end Report

end ScriptStats
