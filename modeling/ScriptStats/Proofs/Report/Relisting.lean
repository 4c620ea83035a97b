import Mathlib.Data.List.Perm.Basic
import ScriptStats.Proofs.Analysis.Consistent
import ScriptStats.Proofs.Report.DisplayOrder
import ScriptStats.Report.Text
import ScriptStats.Report.Writable

/-!
# Reports and the order of listing

A directory is listed in whatever order the files come. The statistics of a tree follow that order in
their words, but its report does not, as long as no two neighbours have the same place in display order.
-/

namespace ScriptStats

/-! ## Statistics up to the order of words -/

namespace Stats

/-- The same statistics but for the order of the words. -/
def Alike (a b : Stats) : Prop :=
  AggregateStats.Alike (.merge [a]) (.merge [b])

namespace Alike

variable {a b : Stats} {items more : List Stats}

theorem refl (a : Stats) : Alike a a :=
  AggregateStats.Alike.refl _

/-- Each of the items may be replaced by one that is alike. -/
theorem merge (h : List.Forall₂ Alike items more) :
    AggregateStats.Alike (.merge items) (.merge more) := by
  induction h with
  | nil => exact .refl _
  | @cons a b items more hab _ ih =>
    have hfirst : AggregateStats.Alike (.merge (a :: more)) (.merge (b :: more)) :=
      (AggregateStats.Alike.of_perm List.perm_append_comm).trans
        ((hab.append_left more).trans (.of_perm List.perm_append_comm))
    exact (ih.append_left [a]).trans hfirst

/-- Statistics that have been merged are merged once more without a change. -/
theorem of_merge (h : AggregateStats.Alike (.merge items) (.merge more)) :
    Alike (.aggregate (.merge items)) (.aggregate (.merge more)) := by
  have hgroup (group : List Stats) : AggregateStats.merge [.aggregate (.merge group)] = .merge group := by
    simpa using AggregateStats.merge_group [] group []
  rwa [Alike, hgroup, hgroup]

theorem bodyChars (h : Alike a b) : a.bodyChars.value = b.bodyChars.value := by
  simpa [AggregateStats.merge, AggregateStats.total] using AggregateStats.Alike.bodyChars h

theorem wordCount (h : Alike a b) : a.wordCount.value = b.wordCount.value := by
  simpa [AggregateStats.merge, AggregateStats.total] using AggregateStats.Alike.wordCount h

theorem scriptLines (h : Alike a b) : a.scriptLines.value = b.scriptLines.value := by
  simpa [AggregateStats.merge, AggregateStats.total] using AggregateStats.Alike.scriptLines h

theorem fileCount (h : Alike a b) : a.fileCount = b.fileCount := by
  simpa [AggregateStats.merge, AggregateStats.total] using AggregateStats.Alike.fileCount h

theorem words (h : Alike a b) : a.words.Perm b.words := by
  simpa [AggregateStats.merge] using AggregateStats.Alike.words h

theorem speakers (h : Alike a b) : a.speakers = b.speakers := by
  refine Std.ExtTreeSet.ext_mem fun name => ?_
  have hname : name ∈ (AggregateStats.merge [a]).speakers ↔ name ∈ (AggregateStats.merge [b]).speakers := by
    rw [AggregateStats.Alike.speakers h]
  simpa [AggregateStats.mem_speakers_merge] using hname

theorem uniqueWords (h : Alike a b) : a.uniqueWords = b.uniqueWords := by
  have hnames : NameSet.ofList a.words = NameSet.ofList b.words :=
    Std.ExtTreeSet.ext_mem fun word => by
      simp only [NameSet.ofList, Std.ExtTreeSet.mem_ofList, List.contains_iff_mem, h.words.mem_iff]
  rw [Stats.uniqueWords, Stats.uniqueWords, hnames]

theorem summary (h : Alike a b) : a.summary = b.summary := by
  rw [Stats.summary, Stats.summary, Stats.speakerChars, Stats.speakerChars, h.bodyChars, h.wordCount,
    h.speakers, h.scriptLines, h.fileCount]

theorem hasWritableRow (h : Alike a b) : a.hasWritableRow = b.hasWritableRow := by
  rw [Stats.hasWritableRow, Stats.hasWritableRow, Count.isWritable, Count.isWritable, Count.isWritable,
    Count.isWritable, h.bodyChars, h.wordCount]

theorem hasWritableSummary (h : Alike a b) : a.hasWritableSummary = b.hasWritableSummary := by
  rw [Stats.hasWritableSummary, Stats.hasWritableSummary, Count.isWritable, Count.isWritable,
    h.hasWritableRow, h.scriptLines, h.fileCount]

end Alike

end Stats

/-! ## Trees that are listed anew -/

namespace Node

theorem induction_on_children {P : Node → Prop}
    (h : ∀ node : Node, (∀ child ∈ node.children, P child) → P node) : ∀ node, P node
  | ⟨_, _, _, _, _⟩ => h _ fun child _ => induction_on_children h child

/-- Every directory has the statistics that its children amount to in their order. -/
def IsTotalled (node : Node) : Prop :=
  ∀ held, node.Holds held → held.isDirectory = true →
    held.stats = .aggregate (.merge (held.children.map stats))

/-- Neighbours that are both directories, or both none, differ in their names by more than case. -/
def IsToldApart (node : Node) : Prop :=
  ∀ held, node.Holds held → held.children.Pairwise fun child other =>
    child.isDirectory = other.isDirectory → child.displayName ≠ other.displayName

/-- Trees that differ only in the order in which the children of directories are listed. The statistics of
directories are left open here, since they follow that order. -/
inductive Relisted : Node → Node → Prop where
  | directory {name path : String} {stats stats' : Stats} {children listed children' : List Node} :
      List.Forall₂ Relisted children listed → listed.Perm children' →
        Relisted ⟨name, path, .directory, stats, children⟩ ⟨name, path, .directory, stats', children'⟩
  | other {name path : String} {kind : NodeKind} {stats : Stats} {children children' : List Node} :
      kind ≠ .directory → List.Forall₂ Relisted children children' →
        Relisted ⟨name, path, kind, stats, children⟩ ⟨name, path, kind, stats, children'⟩

variable {a b : Node}

theorem IsTotalled.child (h : a.IsTotalled) {child : Node} (hchild : child ∈ a.children) :
    child.IsTotalled :=
  fun held hheld => h held (.within hchild hheld)

theorem IsToldApart.child (h : a.IsToldApart) {child : Node} (hchild : child ∈ a.children) :
    child.IsToldApart :=
  fun held hheld => h held (.within hchild hheld)

theorem forall_holds_iff {P : Node → Prop} {node : Node} :
    (∀ held, node.Holds held → P held) ↔
      P node ∧ ∀ child ∈ node.children, ∀ held, child.Holds held → P held := by
  constructor
  · exact fun h => ⟨h node .itself, fun child hchild held hheld => h held (.within hchild hheld)⟩
  · rintro ⟨hnode, hchildren⟩ held (_ | ⟨hchild, hheld⟩)
    · exact hnode
    · exact hchildren _ hchild held hheld

theorem isTotalled_iff : a.IsTotalled ↔
    (a.isDirectory = true → a.stats = .aggregate (.merge (a.children.map stats))) ∧
      ∀ child ∈ a.children, child.IsTotalled :=
  forall_holds_iff

theorem isToldApart_iff : a.IsToldApart ↔
    (a.children.Pairwise fun child other =>
      child.isDirectory = other.isDirectory → child.displayName ≠ other.displayName) ∧
      ∀ child ∈ a.children, child.IsToldApart :=
  forall_holds_iff

namespace Relisted

theorem name_eq (h : Relisted a b) : a.name = b.name := by
  cases h <;> rfl

theorem kind_eq (h : Relisted a b) : a.kind = b.kind := by
  cases h <;> rfl

theorem exists_listed (h : Relisted a b) :
    ∃ listed, List.Forall₂ Relisted a.children listed ∧ listed.Perm b.children := by
  cases h with
  | directory hlisted hperm => exact ⟨_, hlisted, hperm⟩
  | other _ hchildren => exact ⟨_, hchildren, .refl _⟩

/-- What holds for the children that correspond, as long as they are children. -/
theorem forall₂_of_mem {P : Node → Node → Prop} {nodes more : List Node}
    (h : List.Forall₂ Relisted nodes more)
    (hP : ∀ node ∈ nodes, ∀ other ∈ more, Relisted node other → P node other) :
    List.Forall₂ P nodes more := by
  rw [List.forall₂_iff_zip] at h ⊢
  refine ⟨h.1, fun hmem => ?_⟩
  obtain ⟨hnode, hother⟩ := List.of_mem_zip hmem
  exact hP _ hnode _ hother (h.2 hmem)

theorem alike (h : Relisted a b) (ha : a.IsTotalled) (hb : b.IsTotalled) : a.stats.Alike b.stats := by
  induction a using induction_on_children generalizing b with
  | h a ih =>
    cases h with
    | other => exact .refl _
    | @directory _ _ _ _ children listed children' hlisted hperm =>
      have htotal := ha _ .itself rfl
      have htotal' := hb _ .itself rfl
      have hchildren : List.Forall₂ Stats.Alike (children.map stats) (listed.map stats) := by
        rw [List.forall₂_map_left_iff, List.forall₂_map_right_iff]
        refine forall₂_of_mem hlisted fun child hchild other hother hrelisted => ?_
        exact ih child hchild hrelisted (ha.child hchild) (hb.child (hperm.mem_iff.1 hother))
      dsimp only at htotal htotal' ⊢
      rw [htotal, htotal']
      exact .of_merge ((Stats.Alike.merge hchildren).trans (.of_perm (hperm.map stats)))

end Relisted

/-! ## Display order -/

theorem Relisted.displayKey_eq (h : Relisted a b) : a.displayKey = b.displayKey := by
  rw [displayKey, displayKey, isDirectory, isDirectory, displayName, displayName, h.name_eq, h.kind_eq]

/-- Children that are told apart have only one display order. -/
theorem IsToldApart.sortedChildren_eq (h : a.IsToldApart) {sorted : List Node}
    (hperm : a.children.Perm sorted)
    (hsorted : sorted.Pairwise fun child other => displaysBefore child other = true) :
    a.sortedChildren = sorted := by
  have hkeys : (a.children.map displayKey).Nodup := by
    rw [List.Nodup, List.pairwise_map]
    refine (h a .itself).imp fun hapart hkey => ?_
    obtain ⟨hdirectory, hname⟩ := Prod.mk.inj hkey
    exact hapart hdirectory hname
  refine List.Perm.eq_of_pairwise (fun child other hchild hother hle hge => ?_)
    a.pairwise_sortedChildren hsorted (a.sortedChildren_perm.trans hperm)
  refine List.inj_on_of_nodup_map hkeys ?_ ?_ (keyBefore_antisymm hle hge)
  · exact a.sortedChildren_perm.mem_iff.1 hchild
  · exact hperm.mem_iff.2 hother

/-- A tree and one that is listed anew, both with the totals of their own order. -/
structure ListedAnew (a b : Node) : Prop where
  relisted : a.Relisted b
  totalled : a.IsTotalled
  totalled' : b.IsTotalled
  apart : a.IsToldApart

namespace ListedAnew

theorem alike (h : ListedAnew a b) : a.stats.Alike b.stats :=
  h.relisted.alike h.totalled h.totalled'

/-- In display order the children correspond one by one. -/
theorem sortedChildren (h : ListedAnew a b) :
    List.Forall₂ ListedAnew a.sortedChildren b.sortedChildren := by
  obtain ⟨listed, hlisted, hperm⟩ := h.relisted.exists_listed
  -- The children of `a` can be put into an order in which they match the sorted ones of `b`. That order is
  -- sorted as well, since the keys are the same, and children that are told apart have no other.
  have hmoved : Relation.Comp (List.Forall₂ Relisted) List.Perm a.children b.sortedChildren :=
    ⟨listed, hlisted, hperm.trans b.sortedChildren_perm.symm⟩
  rw [List.forall₂_comp_perm_eq_perm_comp_forall₂] at hmoved
  obtain ⟨sorted, hsorted, hrelisted⟩ := hmoved
  have hkeys : sorted.map displayKey = b.sortedChildren.map displayKey := by
    rw [← List.forall₂_eq_eq_eq, List.forall₂_map_left_iff, List.forall₂_map_right_iff]
    exact hrelisted.imp fun _ _ => Relisted.displayKey_eq
  have hpairwise : (sorted.map displayKey).Pairwise fun a b => keyBefore a b = true := by
    rw [hkeys, List.pairwise_map]
    exact b.pairwise_sortedChildren
  rw [h.apart.sortedChildren_eq hsorted (List.pairwise_map.1 hpairwise)]
  refine Relisted.forall₂_of_mem hrelisted fun child hchild other hother hboth => ⟨hboth, ?_, ?_, ?_⟩
  · exact h.totalled.child (hsorted.mem_iff.2 hchild)
  · exact h.totalled'.child (b.sortedChildren_perm.mem_iff.1 hother)
  · exact h.apart.child (hsorted.mem_iff.2 hchild)

end ListedAnew

/-! ## Counts that can be written -/

theorem haveWritableRows_eq (nodes : List Node) :
    haveWritableRows nodes = nodes.all hasWritableRows := by
  induction nodes with
  | nil => rw [haveWritableRows, List.all_nil]
  | cons node nodes ih => rw [haveWritableRows, List.all_cons, ih]

theorem hasWritableRows_eq (node : Node) :
    node.hasWritableRows = (node.stats.hasWritableRow && node.children.all hasWritableRows) := by
  cases node
  rw [hasWritableRows, haveWritableRows_eq]

theorem all_congr {P : Node → Bool} {nodes more : List Node}
    (h : List.Forall₂ (fun node other => P node = P other) nodes more) : nodes.all P = more.all P := by
  induction h with
  | nil => rfl
  | cons hnode _ ih => rw [List.all_cons, List.all_cons, hnode, ih]

theorem Relisted.all_hasWritableRows (h : Relisted a b) (hchildren : ∀ child ∈ a.children,
    ∀ other ∈ b.children, Relisted child other → child.hasWritableRows = other.hasWritableRows) :
    a.children.all hasWritableRows = b.children.all hasWritableRows := by
  obtain ⟨listed, hlisted, hperm⟩ := h.exists_listed
  rw [← hperm.all_eq]
  exact all_congr (forall₂_of_mem hlisted fun child hchild other hother =>
    hchildren child hchild other (hperm.mem_iff.1 hother))

theorem Relisted.hasWritableRows_eq (h : Relisted a b) (ha : a.IsTotalled) (hb : b.IsTotalled) :
    a.hasWritableRows = b.hasWritableRows := by
  induction a using induction_on_children generalizing b with
  | h a ih =>
    rw [Node.hasWritableRows_eq, Node.hasWritableRows_eq, (h.alike ha hb).hasWritableRow]
    rw [h.all_hasWritableRows fun child hchild other hother hboth =>
      ih child hchild hboth (ha.child hchild) (hb.child hother)]

/-! ## Rows -/

theorem ListedAnew.row_eq (h : ListedAnew a b) (depth : Nat) :
    Row.ofNode depth a = Row.ofNode depth b := by
  have hdirectory : a.isDirectory = b.isDirectory := congrArg Prod.fst h.relisted.displayKey_eq
  rw [Row.ofNode, Row.ofNode, hdirectory, h.relisted.name_eq, h.alike.bodyChars, h.alike.wordCount,
    h.alike.speakers]

end Node

namespace Report

open Node

variable {a b : Node}

/-- What is due on the stack corresponds one by one, depth for depth. -/
def DueAnew : List (Node × Nat) → List (Node × Nat) → Prop :=
  List.Forall₂ fun entry other => ListedAnew entry.1 other.1 ∧ entry.2 = other.2

theorem dueAnew_sortedChildren (h : ListedAnew a b) (depth : Nat) :
    DueAnew (a.sortedChildren.map (·, depth)) (b.sortedChildren.map (·, depth)) := by
  rw [DueAnew, List.forall₂_map_left_iff, List.forall₂_map_right_iff]
  exact h.sortedChildren.imp fun _ _ hchild => ⟨hchild, rfl⟩

theorem rowsOf_eq {due due' : List (Node × Nat)} (h : DueAnew due due') : rowsOf due = rowsOf due' := by
  -- The stack is worked off in the same steps on both sides.
  induction due using rowsOf.induct generalizing due' with
  | case1 =>
    cases h
    rfl
  | case2 node depth due ih =>
    cases h with
    | @cons _ other _ rest hfirst hrest =>
      obtain ⟨node', depth'⟩ := other
      obtain ⟨hnode, rfl⟩ := hfirst
      rw [rowsOf, rowsOf, hnode.row_eq]
      exact congrArg _ (ih (List.rel_append (dueAnew_sortedChildren hnode _) hrest))

theorem rows_eq (h : ListedAnew a b) : rows a false = rows b false :=
  rowsOf_eq (dueAnew_sortedChildren h 0)

theorem isWritable_eq (h : ListedAnew a b) (showTree : Bool) :
    isWritable a showTree = isWritable b showTree := by
  have hrows : hasWritableRows a false = hasWritableRows b false := by
    rw [hasWritableRows, hasWritableRows, if_neg Bool.false_ne_true, if_neg Bool.false_ne_true,
      haveWritableRows_eq, haveWritableRows_eq]
    exact h.relisted.all_hasWritableRows fun child hchild other hother hboth =>
      hboth.hasWritableRows_eq (h.totalled.child hchild) (h.totalled'.child hother)
  rw [isWritable, isWritable, h.alike.hasWritableSummary, hrows]

theorem text_eq {stats stats' : Stats} (h : stats.Alike stats') (label : String) (rows : List Row)
    (unique : Bool) : text label stats rows unique = text label stats' rows unique := by
  rw [text, text, h.summary, h.speakers, h.uniqueWords]

/-- The report on a tree does not show in which order its directories were listed, whatever it is headed
and whatever it is to show. Nor does that order decide whether it can be written. -/
theorem ofTree_relisted (h : a.Relisted b) (ha : a.IsTotalled) (hb : b.IsTotalled)
    (hapart : a.IsToldApart) (label : String) (unique showTree : Bool) :
    isWritable a showTree = isWritable b showTree ∧
      ofTree label a unique showTree = ofTree label b unique showTree := by
  have hanew : ListedAnew a b := ⟨h, ha, hb, hapart⟩
  refine ⟨isWritable_eq hanew showTree, ?_⟩
  rw [ofTree, ofTree, rows_eq hanew]
  exact text_eq hanew.alike label _ unique

/-! ## A shelf in two orders -/

/-- A directory with the totals of its children. -/
def directoryOf (name : String) (children : List Node) : Node :=
  ⟨name, name, .directory, .aggregate (.merge (children.map stats)), children⟩

/-- A script in which someone says a word. -/
def scriptOf (name speaker word : String) : Node :=
  ⟨name, name, .file, .file
    { bodyChars := .number word.length, wordCount := .number 1, speakers := .ofList [speaker],
      words := [word] }, []⟩

def shelf : Node :=
  directoryOf "w" [directoryOf "b" [scriptOf "x" "Kai" "one", scriptOf "Y" "Ann" "two"],
    scriptOf "c" "Ann" "six", scriptOf "B" "Kai" "ten"]

def shelfAgain : Node :=
  directoryOf "w" [scriptOf "B" "Kai" "ten",
    directoryOf "b" [scriptOf "Y" "Ann" "two", scriptOf "x" "Kai" "one"], scriptOf "c" "Ann" "six"]

theorem relisted_scriptOf (name speaker word : String) :
    (scriptOf name speaker word).Relisted (scriptOf name speaker word) :=
  .other (by decide) .nil

theorem relisted_directoryOf {name : String} {children listed children' : List Node}
    (h : List.Forall₂ Relisted children listed) (hperm : listed.Perm children') :
    (directoryOf name children).Relisted (directoryOf name children') :=
  .directory h hperm

theorem isTotalled_scriptOf (name speaker word : String) :
    (scriptOf name speaker word).IsTotalled := by
  refine isTotalled_iff.2 ⟨fun hdirectory => ?_, fun child hchild => ?_⟩
  · cases hdirectory
  · cases hchild

theorem isTotalled_directoryOf {name : String} {children : List Node}
    (h : ∀ child ∈ children, child.IsTotalled) : (directoryOf name children).IsTotalled :=
  isTotalled_iff.2 ⟨fun _ => rfl, h⟩

theorem isToldApart_scriptOf (name speaker word : String) :
    (scriptOf name speaker word).IsToldApart := by
  refine isToldApart_iff.2 ⟨.nil, fun child hchild => ?_⟩
  cases hchild

theorem isTotalled_shelf : shelf.IsTotalled := by
  refine isTotalled_directoryOf ?_
  simp only [List.forall_mem_cons]
  refine ⟨isTotalled_directoryOf ?_, isTotalled_scriptOf _ _ _, isTotalled_scriptOf _ _ _, nofun⟩
  simp only [List.forall_mem_cons]
  exact ⟨isTotalled_scriptOf _ _ _, isTotalled_scriptOf _ _ _, nofun⟩

theorem isTotalled_shelfAgain : shelfAgain.IsTotalled := by
  refine isTotalled_directoryOf ?_
  simp only [List.forall_mem_cons]
  refine ⟨isTotalled_scriptOf _ _ _, isTotalled_directoryOf ?_, isTotalled_scriptOf _ _ _, nofun⟩
  simp only [List.forall_mem_cons]
  exact ⟨isTotalled_scriptOf _ _ _, isTotalled_scriptOf _ _ _, nofun⟩

/-- Neighbours that differ only in case are told apart if one of them is a directory. -/
theorem isToldApart_shelf : shelf.IsToldApart := by
  refine isToldApart_iff.2 ⟨by decide +kernel, ?_⟩
  change ∀ child ∈ [_, _, _], _
  simp only [List.forall_mem_cons]
  refine ⟨isToldApart_iff.2 ⟨by decide +kernel, ?_⟩, isToldApart_scriptOf _ _ _,
    isToldApart_scriptOf _ _ _, nofun⟩
  change ∀ child ∈ [_, _], _
  simp only [List.forall_mem_cons]
  exact ⟨isToldApart_scriptOf _ _ _, isToldApart_scriptOf _ _ _, nofun⟩

theorem relisted_shelf : shelf.Relisted shelfAgain := by
  have hinner : (directoryOf "b" [scriptOf "x" "Kai" "one", scriptOf "Y" "Ann" "two"]).Relisted
      (directoryOf "b" [scriptOf "Y" "Ann" "two", scriptOf "x" "Kai" "one"]) :=
    relisted_directoryOf (.cons (relisted_scriptOf _ _ _) (.cons (relisted_scriptOf _ _ _) .nil))
      (.swap _ _ _)
  refine relisted_directoryOf (.cons hinner (.cons (relisted_scriptOf _ _ _)
    (.cons (relisted_scriptOf _ _ _) .nil))) ?_
  exact @List.perm_append_comm _ [_, _] [_]

/-- The two orders of the shelf tell the words in different orders, and have the same report. -/
theorem ofTree_relisted_shelf :
    (shelf.stats.words = ["one", "two", "six", "ten"] ∧
      shelfAgain.stats.words = ["ten", "two", "one", "six"]) ∧
    isWritable shelf true = isWritable shelfAgain true ∧
      ofTree "w" shelf true true = ofTree "w" shelfAgain true true :=
  ⟨by decide, ofTree_relisted relisted_shelf isTotalled_shelf isTotalled_shelfAgain isToldApart_shelf
    "w" true true⟩

end Report

end ScriptStats
