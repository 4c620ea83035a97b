import ScriptStats.Stats.Basic
import ScriptStats.Text.Number

/-!
# Counts that can be written

Counts grow without bound, but a number of too many digits is not written out. What is told of
statistics decides which of their counts have to be writable.
-/

namespace ScriptStats

def Count.isWritable (count : Count) : Bool :=
  Text.isWritable count.value

namespace Stats

/-- Whether the counts can be written that are told of every script and directory. -/
def hasWritableRow (stats : Stats) : Bool :=
  stats.bodyChars.isWritable && stats.wordCount.isWritable

/-- Whether all counts can be written. -/
def hasWritableSummary (stats : Stats) : Bool :=
  stats.hasWritableRow && stats.scriptLines.isWritable && Text.isWritable stats.fileCount

end Stats

end ScriptStats
