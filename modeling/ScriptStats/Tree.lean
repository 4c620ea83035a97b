import ScriptStats.Stats.Fields
import ScriptStats.Text.Case

/-!
# Trees

A tree of scripts and the directories that hold them, each with its statistics. Children are kept
in the order in which they were listed; for display they are sorted.
-/

namespace ScriptStats

inductive NodeKind where
  | directory
  | file
  | other (name : String)
  deriving DecidableEq, Inhabited, Repr

namespace NodeKind

def name : NodeKind → String
  | directory => "directory"
  | file => "file"
  | other name => name

def ofName (name : String) : NodeKind :=
  if name = "directory" then directory else if name = "file" then file else other name

end NodeKind

structure Node where
  name : String
  path : String
  kind : NodeKind
  stats : Stats
  children : List Node := []
  deriving Inhabited

namespace Node

def isDirectory (node : Node) : Bool :=
  node.kind = .directory

mutual

/-- How many nodes there are. -/
def size : Node → Nat
  | ⟨_, _, _, _, children⟩ => sizes children + 1

/-- How many nodes there are in several trees. -/
def sizes : List Node → Nat
  | [] => 0
  | node :: nodes => size node + sizes nodes

end

def toJson (unique : Bool) : Node → Json
  | ⟨name, path, kind, stats, children⟩ =>
    .record
      [("name", .string name),
       ("path", .string path),
       ("kind", .string kind.name),
       ("stats", stats.toJson unique),
       ("children", .array (children.map (toJson unique)))]

/-! ## Display order -/

/-- The key of a name; names that differ in case alone have the same one. -/
def displayName (node : Node) : String :=
  String.ofList (Text.foldCase node.name.toList)

/-- Directories come before all others, then the names decide. -/
def displaysBefore (a b : Node) : Bool :=
  if a.isDirectory = b.isDirectory then a.displayName ≤ b.displayName else a.isDirectory

/-- The children in display order; equal names keep the order in which they were listed. -/
def sortedChildren (node : Node) : List Node :=
  node.children.mergeSort displaysBefore

theorem sortedChildren_perm (node : Node) : node.sortedChildren.Perm node.children :=
  List.mergeSort_perm _ _

theorem sizes_append (nodes more : List Node) :
    sizes (nodes ++ more) = sizes nodes + sizes more := by
  induction nodes with
  | nil => simp [sizes]
  | cons node nodes ih => simp [sizes, ih, Nat.add_assoc]

theorem sizes_eq_of_perm {nodes more : List Node} (h : nodes.Perm more) :
    sizes nodes = sizes more := by
  induction h with
  | nil => rfl
  | cons node _ ih => simp [sizes, ih]
  | swap a b nodes => simp [sizes, Nat.add_left_comm]
  | trans _ _ ih₁ ih₂ => exact ih₁.trans ih₂

theorem size_eq (node : Node) : node.size = sizes node.sortedChildren + 1 := by
  rw [sizes_eq_of_perm node.sortedChildren_perm]
  cases node
  rw [size]

end Node

end ScriptStats
