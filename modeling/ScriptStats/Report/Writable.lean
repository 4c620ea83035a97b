import ScriptStats.Stats.Writable
import ScriptStats.Tree

/-!
# Reports that can be written

A report shows all counts of what it is about, and of the nodes in its rows the counts that are
told of every script and directory.
-/

namespace ScriptStats

namespace Node

mutual

/-- Whether the counts in the rows of a node and of all below it can be written. -/
def hasWritableRows : Node → Bool
  | ⟨_, _, _, stats, children⟩ => stats.hasWritableRow && haveWritableRows children

def haveWritableRows : List Node → Bool
  | [] => true
  | node :: nodes => node.hasWritableRows && haveWritableRows nodes

end

end Node

namespace Report

/-- Whether the rows of a tree can be written, with or without the root. -/
def hasWritableRows (node : Node) (withRoot : Bool) : Bool :=
  if withRoot then node.hasWritableRows else Node.haveWritableRows node.children

/-- Whether the report on a tree can be written, with or without its rows. -/
def isWritable (node : Node) (showTree : Bool) : Bool :=
  node.stats.hasWritableSummary && (!showTree || hasWritableRows node false)

end Report

end ScriptStats
