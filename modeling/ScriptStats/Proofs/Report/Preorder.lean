import Mathlib.Data.List.Perm.Basic
import ScriptStats.Proofs.Report.DisplayOrder
import ScriptStats.Report.Rows

/-!
# Rows in preorder

A tree can be shown by recursion: a node, then each child in display order with all below it, one level
deeper. The stack of nodes that are due tells the same rows (`rows_eq_preorder`), one for every node, and
the depth of a row is the distance of its node from the root.
-/

namespace ScriptStats

namespace Node

theorem size_le_sizes_of_mem {node : Node} {nodes : List Node} (h : node ∈ nodes) :
    node.size ≤ sizes nodes := by
  induction h with
  | head => exact Nat.le_add_right ..
  | tail _ _ ih => exact Nat.le_add_left_of_le ih

theorem size_lt_of_mem_sortedChildren {node child : Node} (h : child ∈ node.sortedChildren) :
    child.size < node.size := by
  rw [node.size_eq]
  exact Nat.lt_succ_of_le (size_le_sizes_of_mem h)

/-- A node at a depth and all below it, each before its children and these in display order. -/
def preorder (depth : Nat) (node : Node) : List (Node × Nat) :=
  (node, depth) :: node.sortedChildren.attach.flatMap fun child => preorder (depth + 1) child.1
termination_by node.size
decreasing_by exact size_lt_of_mem_sortedChildren child.2

/-- The nodes at a distance from the root. -/
def level : Nat → Node → List Node
  | 0, node => [node]
  | distance + 1, node => node.children.flatMap (level distance)

theorem preorder_eq (depth : Nat) (node : Node) :
    preorder depth node = (node, depth) :: node.sortedChildren.flatMap (preorder (depth + 1)) := by
  rw [preorder]
  simp only [List.flatMap_subtype, List.unattach_attach]

theorem le_of_mem_preorder {depth : Nat} {node : Node} {entry : Node × Nat}
    (h : entry ∈ preorder depth node) : depth ≤ entry.2 := by
  induction depth, node using preorder.induct with
  | case1 depth node ih =>
    rw [preorder_eq, List.mem_cons, List.mem_flatMap] at h
    obtain rfl | ⟨child, hchild, hentry⟩ := h
    · exact Nat.le_refl _
    · exact Nat.le_of_succ_le (ih ⟨child, hchild⟩ hentry)

/-- The nodes met below a node are at each depth those of one level, if its children are met so. -/
theorem filter_flatMap_preorder_perm {distance depth : Nat} {node : Node}
    (h : ∀ child ∈ node.sortedChildren,
      ((preorder depth child).filter (·.2 = depth + distance)).Perm
        ((child.level distance).map (·, depth + distance))) :
    ((node.sortedChildren.flatMap (preorder depth)).filter (·.2 = depth + distance)).Perm
      ((node.level (distance + 1)).map (·, depth + distance)) := by
  rw [List.filter_flatMap, level, List.map_flatMap]
  exact (List.Perm.flatMap_left _ h).trans (node.sortedChildren_perm.flatMap_right _)

/-- At each depth there stand just the nodes of one level. -/
theorem filter_preorder_perm (distance depth : Nat) (node : Node) :
    ((preorder depth node).filter (·.2 = depth + distance)).Perm
      ((node.level distance).map (·, depth + distance)) := by
  induction distance generalizing depth node with
  | zero =>
    rw [preorder_eq, List.filter_cons_of_pos (by simp), List.filter_eq_nil_iff.2]
    · exact .refl _
    · intro entry hentry
      obtain ⟨child, _, hentry⟩ := List.mem_flatMap.1 hentry
      have hbelow := le_of_mem_preorder hentry
      simp only [decide_eq_true_eq]
      omega
  | succ distance ih =>
    rw [preorder_eq, List.filter_cons_of_neg (by simp),
      show depth + (distance + 1) = depth + 1 + distance by omega]
    exact filter_flatMap_preorder_perm fun child _ => ih (depth + 1) child

end Node

namespace Report

open Node

/-- The row of a node that stands at a depth. -/
def rowAt (entry : Node × Nat) : Row :=
  .ofNode entry.2 entry.1

theorem depth_comp_rowAt : Row.depth ∘ rowAt = Prod.snd :=
  rfl

theorem rowsOf_eq_preorder (due : List (Node × Nat)) :
    rowsOf due = (due.flatMap fun entry => preorder entry.2 entry.1).map rowAt := by
  induction due using rowsOf.induct with
  | case1 => rw [rowsOf, List.flatMap_nil, List.map_nil]
  | case2 node depth due ih =>
    rw [rowsOf, ih, List.flatMap_append, List.flatMap_map, List.flatMap_cons, preorder_eq,
      List.cons_append, List.map_cons]
    rfl

/-- The rows of a tree are those of its nodes in preorder, without the root those of its children, which
then stand at depth zero. So each node has one row, which carries the depth of its level. Display order is
the only order of the children in which directories come first, names do not decrease, and ties are
kept. -/
theorem rows_eq_preorder (node : Node) :
    (rows node true = (preorder 0 node).map rowAt ∧
      rows node false = (node.sortedChildren.flatMap (preorder 0)).map rowAt) ∧
    ((rows node true).map Row.depth = (preorder 0 node).map Prod.snd ∧
      (rows node false).map Row.depth = (node.sortedChildren.flatMap (preorder 0)).map Prod.snd) ∧
    (∀ distance,
      ((preorder 0 node).filter (·.2 = distance)).Perm ((node.level distance).map (·, distance)) ∧
      ((node.sortedChildren.flatMap (preorder 0)).filter (·.2 = distance)).Perm
        ((node.level (distance + 1)).map (·, distance))) ∧
    ∀ shown, node.IsDisplayOrder shown ↔ shown = node.sortedChildren := by
  have hshown : rows node true = (preorder 0 node).map rowAt := by simp [rows, rowsOf_eq_preorder]
  have hbelow : rows node false = (node.sortedChildren.flatMap (preorder 0)).map rowAt := by
    rw [rows, if_neg Bool.false_ne_true, rowsOf_eq_preorder, List.flatMap_map]
  refine ⟨⟨hshown, hbelow⟩, ⟨?_, ?_⟩, fun distance => ⟨?_, ?_⟩, fun shown => isDisplayOrder_iff⟩
  · rw [hshown, List.map_map, depth_comp_rowAt]
  · rw [hbelow, List.map_map, depth_comp_rowAt]
  · simpa using filter_preorder_perm distance 0 node
  · simpa using filter_flatMap_preorder_perm fun child _ => filter_preorder_perm distance 0 child

end Report

end ScriptStats
