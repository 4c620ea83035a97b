import Mathlib.Data.List.Basic
import ScriptStats.Tree

/-!
# Display order

The children of a node have one display order: directories come first, names decide next, and where the
names are the same but for case, the order of listing is kept (`isDisplayOrder_iff`).
-/

namespace ScriptStats

section Sorted

variable {α β : Type} [DecidableEq β] {key : α → β} {before : β → β → Bool} {items more : List α}

theorem mem_iff_of_filter (h : ∀ k, items.filter (key · = k) = more.filter (key · = k)) (a : α) :
    a ∈ items ↔ a ∈ more := by
  have hkey : a ∈ items.filter (key · = key a) ↔ a ∈ more.filter (key · = key a) := by
    rw [h]
  simpa using hkey

/-- Sorted lists are the same if the items of each key stand in the same order. -/
theorem eq_of_pairwise_of_filter
    (hantisymm : ∀ a b, before a b = true → before b a = true → a = b)
    (hitems : items.Pairwise fun a b => before (key a) (key b) = true)
    (hmore : more.Pairwise fun a b => before (key a) (key b) = true)
    (hfilter : ∀ k, items.filter (key · = k) = more.filter (key · = k)) : items = more := by
  have hmem := mem_iff_of_filter hfilter
  induction items generalizing more with
  | nil => exact (List.eq_nil_iff_forall_not_mem.2 fun a ha => nomatch (hmem a).2 ha).symm
  | cons a items ih =>
    obtain _ | ⟨b, more⟩ := more
    · exact absurd ((hmem a).1 List.mem_cons_self) List.not_mem_nil
    rw [List.pairwise_cons] at hitems hmore
    -- Each of the two heads stands somewhere in the other list, so their keys come before each other.
    have hkeys : key a = key b := by
      rcases List.mem_cons.1 ((hmem a).1 List.mem_cons_self) with rfl | ha
      · rfl
      rcases List.mem_cons.1 ((hmem b).2 List.mem_cons_self) with rfl | hb
      · rfl
      exact hantisymm _ _ (hitems.1 b hb) (hmore.1 a ha)
    have hheads := hfilter (key a)
    rw [List.filter_cons_of_pos (by simp), List.filter_cons_of_pos (by simp [hkeys])] at hheads
    obtain ⟨rfl, htails⟩ := List.cons.inj hheads
    have hrest (k : β) : items.filter (key · = k) = more.filter (key · = k) := by
      by_cases hk : key a = k
      · rwa [← hk]
      · have hk' := hfilter k
        rwa [List.filter_cons_of_neg (by simpa using hk),
          List.filter_cons_of_neg (by simpa using hk)] at hk'
    rw [ih hitems.2 hmore.2 hrest (mem_iff_of_filter hrest)]

end Sorted

namespace Node

/-! ## Keys -/

/-- What a node is sorted by. -/
def displayKey (node : Node) : Bool × String :=
  (node.isDirectory, node.displayName)

def keyBefore (a b : Bool × String) : Bool :=
  if a.1 = b.1 then a.2 ≤ b.2 else a.1

theorem displaysBefore_eq (a b : Node) : displaysBefore a b = keyBefore a.displayKey b.displayKey :=
  rfl

theorem keyBefore_trans {a b c : Bool × String} (hab : keyBefore a b = true)
    (hbc : keyBefore b c = true) : keyBefore a c = true := by
  obtain ⟨da, na⟩ := a
  obtain ⟨db, nb⟩ := b
  obtain ⟨dc, nc⟩ := c
  cases da <;> cases db <;> cases dc <;> simp_all [keyBefore] <;> exact String.le_trans hab hbc

theorem keyBefore_total (a b : Bool × String) : (keyBefore a b || keyBefore b a) = true := by
  obtain ⟨da, na⟩ := a
  obtain ⟨db, nb⟩ := b
  cases da <;> cases db <;> simp [keyBefore, String.le_total]

theorem keyBefore_antisymm {a b : Bool × String} (hab : keyBefore a b = true)
    (hba : keyBefore b a = true) : a = b := by
  obtain ⟨da, na⟩ := a
  obtain ⟨db, nb⟩ := b
  cases da <;> cases db <;> simp_all [keyBefore] <;> exact String.le_antisymm hab hba

/-- One key comes before another if a directory is not to follow what is none, and names are in order
within a group. -/
theorem keyBefore_iff {a b : Bool × String} :
    keyBefore a b = true ↔ (b.1 = true → a.1 = true) ∧ (a.1 = b.1 → a.2 ≤ b.2) := by
  obtain ⟨da, na⟩ := a
  obtain ⟨db, nb⟩ := b
  cases da <;> cases db <;> simp [keyBefore]

/-! ## The sorted children -/

theorem pairwise_sortedChildren (node : Node) :
    node.sortedChildren.Pairwise fun child other => displaysBefore child other = true :=
  List.pairwise_mergeSort
    (fun a b c => @keyBefore_trans a.displayKey b.displayKey c.displayKey)
    (fun a b => keyBefore_total a.displayKey b.displayKey) _

/-- Children with the same key keep the order in which they were listed. -/
theorem filter_sortedChildren (node : Node) (key : Bool × String) :
    node.sortedChildren.filter (·.displayKey = key) = node.children.filter (·.displayKey = key) := by
  have hsorted : (node.children.filter (·.displayKey = key)).Pairwise fun child other =>
      displaysBefore child other = true := by
    refine List.pairwise_of_forall_mem_list fun child hchild other hother => ?_
    rw [displaysBefore_eq, of_decide_eq_true (List.mem_filter.1 hchild).2,
      of_decide_eq_true (List.mem_filter.1 hother).2]
    simpa using keyBefore_total key key
  have hsublist := (List.sublist_mergeSort
    (fun a b c => @keyBefore_trans a.displayKey b.displayKey c.displayKey)
    (fun a b => keyBefore_total a.displayKey b.displayKey) hsorted List.filter_sublist).filter
      (·.displayKey = key)
  simp only [List.filter_filter, Bool.and_self] at hsublist
  exact (hsublist.eq_of_length (node.sortedChildren_perm.filter _).length_eq.symm).symm

/-- The children in an order in which they may be shown: directories before all others, in each group
the names in order, and those with the same name as they were listed. -/
structure IsDisplayOrder (node : Node) (shown : List Node) : Prop where
  perm : shown.Perm node.children
  directories : shown.Pairwise fun child other => other.isDirectory = true → child.isDirectory = true
  names : shown.Pairwise fun child other =>
    child.isDirectory = other.isDirectory → child.displayName ≤ other.displayName
  ties : ∀ directory name,
    shown.filter (fun child => child.isDirectory = directory ∧ child.displayName = name) =
      node.children.filter fun child => child.isDirectory = directory ∧ child.displayName = name

variable {node : Node} {shown : List Node}

theorem pairwise_displaysBefore_iff :
    (shown.Pairwise fun child other => displaysBefore child other = true) ↔
      (shown.Pairwise fun child other => other.isDirectory = true → child.isDirectory = true) ∧
      shown.Pairwise fun child other =>
        child.isDirectory = other.isDirectory → child.displayName ≤ other.displayName := by
  simp only [displaysBefore_eq, keyBefore_iff, List.pairwise_and_iff]
  rfl

theorem filter_displayKey (nodes : List Node) (directory : Bool) (name : String) :
    nodes.filter (·.displayKey = (directory, name)) =
      nodes.filter fun child => child.isDirectory = directory ∧ child.displayName = name := by
  simp only [displayKey, Prod.mk.injEq]

theorem isDisplayOrder_sortedChildren (node : Node) : node.IsDisplayOrder node.sortedChildren := by
  obtain ⟨hdirectories, hnames⟩ := pairwise_displaysBefore_iff.1 node.pairwise_sortedChildren
  refine ⟨node.sortedChildren_perm, hdirectories, hnames, fun directory name => ?_⟩
  rw [← filter_displayKey, ← filter_displayKey, filter_sortedChildren]

theorem isDisplayOrder_iff : node.IsDisplayOrder shown ↔ shown = node.sortedChildren := by
  refine ⟨fun h => ?_, fun h => h ▸ node.isDisplayOrder_sortedChildren⟩
  refine @eq_of_pairwise_of_filter _ _ _ displayKey keyBefore _ _ (fun _ _ => keyBefore_antisymm)
    (pairwise_displaysBefore_iff.2 ⟨h.directories, h.names⟩) node.pairwise_sortedChildren fun key => ?_
  rw [filter_sortedChildren, filter_displayKey, filter_displayKey, h.ties]

end Node

end ScriptStats
