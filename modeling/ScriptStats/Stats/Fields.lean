import ScriptStats.Json.Basic
import ScriptStats.Stats.Basic

/-!
# Statistics as fields

The named fields under which statistics are handed on. Only those of several scripts tell how many
there are. The words are either all that occur or the set of them.
-/

namespace ScriptStats

def Count.toJson : Count → Json
  | number n => .int n
  | flag b => .bool b

namespace Stats

def listedWords (unique : Bool) (stats : Stats) : List String :=
  if unique then stats.uniqueWords else stats.words

def commonFields (unique : Bool) (stats : Stats) : List (String × Json) :=
  [("body_char_count", stats.bodyChars.toJson),
   ("word_count", stats.wordCount.toJson),
   ("speakers", .strings stats.speakers.toList),
   ("words", .strings (stats.listedWords unique)),
   ("script_line_count", stats.scriptLines.toJson),
   ("speaker_char_count", .int stats.speakerChars)]

def fields (unique : Bool) : Stats → List (String × Json)
  | file s => (file s).commonFields unique
  | aggregate s => (aggregate s).commonFields unique ++ [("file_count", .int s.fileCount)]

def toJson (unique : Bool) (stats : Stats) : Json :=
  .record (stats.fields unique)

end Stats

end ScriptStats
