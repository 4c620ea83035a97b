import ScriptStats.Report.Count
import ScriptStats.Tree

/-!
# Rows of a report

A tree is shown with one row for every node, in display order, each node before its children. The
nodes that are still to be shown are kept on a stack.
-/

namespace ScriptStats

structure Row where
  depth : Nat
  label : String
  bodyChars : String
  words : String
  speakers : String
  deriving DecidableEq, Repr

namespace Row

open Report

def ofNode (depth : Nat) (node : Node) : Row where
  depth := depth
  label := if node.isDirectory then node.name ++ "/" else node.name
  bodyChars := countText node.stats.bodyChars.value
  words := countText node.stats.wordCount.value
  speakers := countText node.stats.speakers.size

end Row

namespace Report

/-- The rows of the nodes that are due, each with its depth, and of all below them. -/
def rowsOf : List (Node × Nat) → List Row
  | [] => []
  | (node, depth) :: due =>
    Row.ofNode depth node :: rowsOf (node.sortedChildren.map (·, depth + 1) ++ due)
termination_by due => Node.sizes (due.map Prod.fst)
decreasing_by
  simp [Function.comp_def, Node.sizes_append, Node.sizes, node.size_eq]

/-- The rows of a tree. Without the root, its children stand at depth zero. -/
def rows (node : Node) (withRoot : Bool) : List Row :=
  if withRoot then rowsOf [(node, 0)] else rowsOf (node.sortedChildren.map (·, 0))

end Report

end ScriptStats
