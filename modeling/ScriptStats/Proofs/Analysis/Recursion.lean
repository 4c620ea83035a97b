import ScriptStats.Proofs.Analysis.Assembly
import ScriptStats.Proofs.Stats.Merge

/-!
# The plain recursion

The tree of a workspace without a stack, a set of identities or nodes that wait: the children of a
directory are read off its entries. Where every directory has an identity of its own, the walk and
the assembly come to that tree.
-/

namespace ScriptStats

namespace Path

/-- The path lies below `directory`. -/
def IsBelow (directory path : Path) : Prop :=
  ∃ name names, path = ⟨directory.anchor, directory.names ++ name :: names⟩

variable {directory other path : Path} {name : String}

theorem isBelow_child : directory.IsBelow (directory.child name) :=
  ⟨name, [], rfl⟩

theorem not_isBelow_self : ¬ directory.IsBelow directory := by
  rintro ⟨name, names, h⟩
  have hlength := congrArg (·.names.length) h
  simp at hlength

theorem IsBelow.of_child (h : (directory.child name).IsBelow path) : directory.IsBelow path := by
  obtain ⟨next, names, rfl⟩ := h
  exact ⟨name, next :: names, by simp [child]⟩

theorem not_isBelow_child_child {other : String} :
    ¬ (directory.child name).IsBelow (directory.child other) := by
  rintro ⟨next, names, h⟩
  have hlength := congrArg (·.names.length) h
  simp [child] at hlength

theorem eq_or_isBelow_of_isBelow_child (h : other.IsBelow (directory.child name)) :
    directory = other ∨ other.IsBelow directory := by
  obtain ⟨next, names, h⟩ := h
  obtain ⟨hanchor, hnames⟩ := Path.mk.inj h
  obtain rfl | ⟨names, last, rfl⟩ := List.eq_nil_or_concat names
  · left
    exact congrArg₂ Path.mk hanchor (List.append_inj' hnames rfl).1
  · right
    rw [List.concat_eq_append, ← List.cons_append, ← List.append_assoc] at hnames
    exact ⟨next, names, congrArg₂ Path.mk hanchor (List.append_inj' hnames rfl).1⟩

theorem child_inj {other : String} (h : directory.child name = directory.child other) :
    name = other := by
  simpa [child] using h

end Path

namespace Node

mutual

/-- The statistics of the files in a tree, from left to right. -/
def leaves : Node → List Stats
  | ⟨_, _, kind, stats, children⟩ => if kind = .file then [stats] else leavesOfAll children

/-- The statistics of the files in several trees. -/
def leavesOfAll : List Node → List Stats
  | [] => []
  | node :: nodes => leaves node ++ leavesOfAll nodes

end

end Node

namespace StillFiles

/-- Whether a directory that lies `depth` levels below the root has the entry as a child that is a
directory. -/
def HasDirectory (options : WalkOptions) (depth : Nat) (entry : Entry) : Prop :=
  entry.isDirectory = true ∧ entry.name ∉ options.excluded ∧
    ∀ limit ∈ options.maxDepth, (depth : Int) < limit

def HasScript (options : WalkOptions) (entry : Entry) : Prop :=
  entry.isDirectory = false ∧ options.extension.toList <:+ entry.name.toList

/-- The children that come of the entries of a directory which lies `depth` levels below the
root. -/
inductive Children (files : StillFiles) (options : WalkOptions) :
    Nat → List Entry → List Node → Prop where
  | nil {depth} : Children files options depth [] []
  | directory {depth entry entries inner nodes} : HasDirectory options depth entry →
      Children files options (depth + 1) (files.entries entry.path) inner →
      Children files options depth entries nodes →
      Children files options depth (entry :: entries) (Node.ofDirectory entry.path inner :: nodes)
  | script {depth entry entries nodes} : HasScript options entry →
      Children files options depth entries nodes →
      Children files options depth (entry :: entries)
        (Node.ofScript entry (files.stats entry.path) :: nodes)
  | skip {depth entry entries nodes} : ¬ HasDirectory options depth entry →
      ¬ HasScript options entry → Children files options depth entries nodes →
      Children files options depth (entry :: entries) nodes

/-- The node of a directory which lies `depth` levels below the root. -/
def IsTree (files : StillFiles) (options : WalkOptions) (directory : Path) (depth : Nat)
    (node : Node) : Prop :=
  ∃ nodes, Children files options depth (files.entries directory) nodes ∧
    node = Node.ofDirectory directory nodes

variable {files : StillFiles} {options : WalkOptions}

/-! ## The recursion gives one tree -/

theorem HasDirectory.not_hasScript {depth : Nat} {entry : Entry}
    (h : HasDirectory options depth entry) : ¬ HasScript options entry :=
  fun hscript => Bool.false_ne_true (hscript.1.symm.trans h.1)

theorem Children.unique {depth : Nat} {entries : List Entry} {nodes nodes' : List Node}
    (h : Children files options depth entries nodes)
    (h' : Children files options depth entries nodes') : nodes = nodes' := by
  induction h generalizing nodes' with
  | nil => cases h'; rfl
  | directory hdirectory _ _ ih₁ ih₂ =>
    cases h' with
    | directory _ hinner hnodes => rw [ih₁ hinner, ih₂ hnodes]
    | script hscript => exact absurd hscript hdirectory.not_hasScript
    | skip hnot => exact absurd hdirectory hnot
  | script hscript _ ih =>
    cases h' with
    | directory hdirectory => exact absurd hscript hdirectory.not_hasScript
    | script _ hnodes => rw [ih hnodes]
    | skip _ hnot => exact absurd hscript hnot
  | skip hdirectory hscript _ ih =>
    cases h' with
    | directory h => exact absurd h hdirectory
    | script h => exact absurd h hscript
    | skip _ _ hnodes => exact ih hnodes

theorem IsTree.unique {directory : Path} {depth : Nat} {node node' : Node}
    (h : IsTree files options directory depth node)
    (h' : IsTree files options directory depth node') : node = node' := by
  obtain ⟨nodes, hnodes, rfl⟩ := h
  obtain ⟨nodes', hnodes', rfl⟩ := h'
  rw [hnodes.unique hnodes']

/-- The children of a directory amount to their leaves. -/
theorem Children.merge_eq {depth : Nat} {entries : List Entry} {nodes : List Node}
    (h : Children files options depth entries nodes) (before : List Stats) :
    AggregateStats.merge (before ++ nodes.map Node.stats) =
      AggregateStats.merge (before ++ Node.leavesOfAll nodes) := by
  induction h generalizing before with
  | nil => rfl
  | @directory depth entry entries inner nodes _ _ _ ih₁ ih₂ =>
    have hinner := ih₁ []
    simp only [List.nil_append] at hinner
    have hleaves : Node.leavesOfAll (Node.ofDirectory entry.path inner :: nodes) =
        Node.leavesOfAll inner ++ Node.leavesOfAll nodes := by
      simp [Node.leavesOfAll, Node.ofDirectory, Node.leaves]
    rw [hleaves, List.map_cons, Node.ofDirectory, hinner, AggregateStats.merge_group,
      ih₂ (before ++ Node.leavesOfAll inner), List.append_assoc]
  | @script depth entry entries nodes _ _ ih =>
    have hnodes := ih (before ++ [.file (files.stats entry.path)])
    rw [List.append_assoc, List.append_assoc] at hnodes
    simpa [Node.leavesOfAll, Node.leaves, Node.ofScript] using hnodes
  | skip _ _ _ ih => exact ih before

theorem IsTree.stats_eq {directory : Path} {depth : Nat} {node : Node}
    (h : IsTree files options directory depth node) :
    node.stats = .aggregate (AggregateStats.merge node.leaves) := by
  obtain ⟨nodes, hnodes, rfl⟩ := h
  have hmerge := hnodes.merge_eq []
  simpa [Node.ofDirectory, Node.leaves] using hmerge

/-! ## Directories with identities of their own -/

/-- Every directory that can be reached is an entry of one directory alone, and no other directory
has its identity. -/
structure IsForest (files : StillFiles) (excluded : List String) (root : Path) : Prop where
  path_eq : ∀ directory, Reaches files excluded root directory →
    ∀ entry ∈ files.entries directory, entry.path = directory.child entry.name
  names_nodup : ∀ directory, Reaches files excluded root directory →
    ((files.entries directory).map Entry.name).Nodup
  identity_inj : ∀ directory other, Reaches files excluded root directory →
    Reaches files excluded root other → files.identity directory = files.identity other →
    directory = other

theorem tooDeep_eq_false_iff {depth : Nat} : Walk.tooDeep options depth = false ↔
    ∀ limit ∈ options.maxDepth, (depth : Int) < limit := by
  unfold Walk.tooDeep
  split
  next limit hlimit => simp [hlimit]
  next hlimit => simp [hlimit]

theorem hasScript_iff {entry : Entry} : HasScript options entry ↔
    entry.isDirectory = false ∧ Walk.isScriptName options entry.name = true := by
  rw [HasScript, Walk.isScriptName, List.isSuffixOf_iff_suffix]

/-- If no entry has been met before and no two are one, all that may be entered are kept. -/
theorem Keeps.children {depth : Nat} {met met' : Walk.Identities} {entries kept : List Entry}
    (h : Keeps files options depth met entries kept met')
    (hfresh : ∀ entry ∈ entries, HasDirectory options depth entry →
      files.identity entry.path ∉ met)
    (hdistinct : entries.Pairwise fun a b => HasDirectory options depth a →
      HasDirectory options depth b → files.identity a.path ≠ files.identity b.path)
    {nodes : List Node} (hnodes : List.Forall₂
      (fun entry node => IsTree files options entry.path (depth + 1) node)
      (kept.filter (·.isDirectory)) nodes) :
    Children files options depth entries (files.weave kept nodes) := by
  induction h generalizing nodes with
  | nil => exact .nil
  | @enter met met' entry entries kept hkind hname hdeep hnew _ ih =>
    have hdirectory : HasDirectory options depth entry :=
      ⟨hkind, hname, tooDeep_eq_false_iff.1 hdeep⟩
    rw [List.filter_cons_of_pos hkind] at hnodes
    obtain _ | ⟨⟨inner, hinner, rfl⟩, hrest⟩ := hnodes
    rw [List.pairwise_cons] at hdistinct
    simp only [weave, hkind, if_true, List.head?_cons, Option.toList_some, List.tail_cons]
    refine .directory hdirectory hinner (ih (fun other hother hmay => ?_) hdistinct.2 hrest)
    simp only [Std.ExtTreeSet.mem_insert, Std.compare_eq_iff_eq, not_or]
    exact ⟨hdistinct.1 other hother hdirectory hmay,
      hfresh other (List.mem_cons_of_mem _ hother) hmay⟩
  | @skip met met' entry entries kept hkind hskip _ ih =>
    rw [List.pairwise_cons] at hdistinct
    have hnot : ¬ HasDirectory options depth entry := by
      intro hmay
      rcases hskip with hexcluded | hdeep | hmet
      · exact hmay.2.1 hexcluded
      · rw [tooDeep_eq_false_iff.2 hmay.2.2] at hdeep
        cases hdeep
      · exact hfresh entry (List.mem_cons_self ..) hmay hmet
    refine .skip hnot (by simp [HasScript, hkind]) (ih ?_ hdistinct.2 hnodes)
    exact fun other hother => hfresh other (List.mem_cons_of_mem _ hother)
  | @script met met' entry entries kept hkind hname _ ih =>
    rw [List.pairwise_cons] at hdistinct
    rw [List.filter_cons_of_neg (by simp [hkind])] at hnodes
    simp only [weave, hkind, Bool.false_eq_true, if_false]
    refine .script (hasScript_iff.2 ⟨hkind, hname⟩) (ih ?_ hdistinct.2 hnodes)
    exact fun other hother => hfresh other (List.mem_cons_of_mem _ hother)
  | @other met met' entry entries kept hkind hname _ ih =>
    rw [List.pairwise_cons] at hdistinct
    refine .skip (by simp [HasDirectory, hkind]) (by simp [hasScript_iff, hname])
      (ih ?_ hdistinct.2 hnodes)
    exact fun other hother => hfresh other (List.mem_cons_of_mem _ hother)

namespace IsForest

variable {root : Path}

/-- The entries of a directory that may be entered differ in their identities. -/
theorem pairwise_identity (hforest : files.IsForest options.excluded root) {directory : Path}
    (hdirectory : Reaches files options.excluded root directory) (depth : Nat) :
    (files.entries directory).Pairwise fun a b => HasDirectory options depth a →
      HasDirectory options depth b → files.identity a.path ≠ files.identity b.path := by
  have hnames := List.pairwise_map.1 (hforest.names_nodup directory hdirectory)
  refine hnames.imp_of_mem fun {a b} ha hb hne hmay hmay' heq => hne ?_
  have hpath := hforest.identity_inj _ _ (.entry hdirectory ha hmay.1 hmay.2.1)
    (.entry hdirectory hb hmay'.1 hmay'.2.1) heq
  rw [hforest.path_eq directory hdirectory a ha, hforest.path_eq directory hdirectory b hb] at hpath
  exact Path.child_inj hpath

theorem exists_eq_child_of_mem_below (hforest : files.IsForest options.excluded root)
    {met met' : Walk.Identities} {directory : Path} {depth : Nat} {kept : List Entry}
    (hkeeps : Keeps files options depth met (files.entries directory) kept met')
    (hreach : Reaches files options.excluded root directory) {entered : Path × Nat}
    (hentered : entered ∈ Listing.below ⟨directory, kept⟩ depth) :
    ∃ name, entered.1 = directory.child name := by
  simp only [Listing.below, Listing.directories, List.mem_map, List.mem_filter] at hentered
  obtain ⟨entry, ⟨hentry, -⟩, rfl⟩ := hentered
  exact ⟨entry.name, hforest.path_eq directory hreach entry (hkeeps.sublist.subset hentry)⟩

/-- The directories that one step makes due lie below the one it enters, so that nothing below them
has been met either. -/
theorem below_unmet (hforest : files.IsForest options.excluded root)
    {met met' : Walk.Identities} {directory : Path} {depth : Nat} {due : List (Path × Nat)}
    {kept : List Entry} (hfrontier : files.IsFrontier met ((directory, depth) :: due))
    (hkeeps : Keeps files options depth met (files.entries directory) kept met')
    (hreach : Reaches files options.excluded root directory)
    (hunmet : ∀ entered ∈ (directory, depth) :: due, ∀ path,
      Reaches files options.excluded root path → entered.1.IsBelow path →
      files.identity path ∉ met) :
    ∀ entered ∈ Listing.below ⟨directory, kept⟩ depth ++ due, ∀ path,
      Reaches files options.excluded root path → entered.1.IsBelow path →
      files.identity path ∉ met' := by
  intro entered hentered path hpath hisBelow hmet'
  rcases hkeeps.mem_iff.1 hmet' with hmet | hnew
  · rcases List.mem_append.1 hentered with hbelow | hdue
    · obtain ⟨name, hname⟩ := hforest.exists_eq_child_of_mem_below hkeeps hreach hbelow
      exact hunmet _ (List.mem_cons_self ..) path hpath (hname ▸ hisBelow).of_child hmet
    · exact hunmet _ (List.mem_cons_of_mem _ hdue) path hpath hisBelow hmet
  · rw [← files.identities_below directory kept depth, List.mem_map] at hnew
    obtain ⟨found, hfound, heq⟩ := hnew
    obtain ⟨name, hname⟩ := hforest.exists_eq_child_of_mem_below hkeeps hreach hfound
    obtain rfl : found.1 = path :=
      hforest.identity_inj _ _ (reaches_below hkeeps hreach found hfound) hpath heq
    rw [hname] at hisBelow
    rcases List.mem_append.1 hentered with hbelow | hdue
    · obtain ⟨other, hother⟩ := hforest.exists_eq_child_of_mem_below hkeeps hreach hbelow
      exact Path.not_isBelow_child_child (hother ▸ hisBelow)
    · rcases Path.eq_or_isBelow_of_isBelow_child hisBelow with rfl | hisBelow
      · have hnodup := hfrontier.nodup
        rw [List.map_cons, List.nodup_cons] at hnodup
        exact hnodup.1 (List.mem_map_of_mem (f := fun due => files.identity due.1) hdue)
      · exact hunmet entered (List.mem_cons_of_mem _ hdue) directory hreach hisBelow
          (hfrontier.met _ (List.mem_cons_self ..))

/-- The nodes on the stack are those of the plain recursion. -/
theorem forall₂_stack (hforest : files.IsForest options.excluded root) {met : Walk.Identities}
    {due : List (Path × Nat)} {listings : List Listing}
    (h : Enters files options met due listings) (hfrontier : files.IsFrontier met due)
    (hreach : ∀ entered ∈ due, Reaches files options.excluded root entered.1)
    (hunmet : ∀ entered ∈ due, ∀ path, Reaches files options.excluded root path →
      entered.1.IsBelow path → files.identity path ∉ met) :
    List.Forall₂ (fun entered node => IsTree files options entered.1 entered.2 node) due
      (files.stack listings) := by
  induction h with
  | done => exact .nil
  | @next met met' directory depth due kept more hkeeps _ ih =>
    have hdirectory := hreach _ (List.mem_cons_self ..)
    have hnodes := ih (hfrontier.next hkeeps)
      (fun entered hentered => (List.mem_append.1 hentered).elim
        (reaches_below hkeeps hdirectory entered)
        fun hdue => hreach entered (List.mem_cons_of_mem _ hdue))
      (hforest.below_unmet hfrontier hkeeps hdirectory hunmet)
    have hcount : (Listing.below ⟨directory, kept⟩ depth).length =
        (Listing.directories ⟨directory, kept⟩).length := List.length_map ..
    have hinner := List.forall₂_take (Listing.directories ⟨directory, kept⟩).length hnodes
    have hrest := List.forall₂_drop (Listing.directories ⟨directory, kept⟩).length hnodes
    rw [← hcount, List.take_left' rfl, hcount, Listing.below, List.forall₂_map_left_iff] at hinner
    rw [← hcount, List.drop_left' rfl, hcount] at hrest
    refine .cons ⟨_, hkeeps.children (fun entry hentry hmay => ?_)
      (hforest.pairwise_identity hdirectory depth) hinner, rfl⟩ hrest
    refine hunmet _ (List.mem_cons_self ..) entry.path
      (.entry hdirectory hentry hmay.1 hmay.2.1) ?_
    rw [hforest.path_eq directory hdirectory entry hentry]
    exact Path.isBelow_child

end IsForest

/-- Without identities that are met twice, the tree of a workspace is the one of the plain
recursion. What its root counts are its leaves from left to right. -/
theorem buildTree_eq_recursion (options : WalkOptions) {root : Path}
    (hforest : files.IsForest options.excluded root) :
    (∀ node, IsTree files options root 0 node ↔
      node = files.run (buildTree options false root)) ∧
      (files.run (buildTree options false root)).stats =
        .aggregate (AggregateStats.merge (files.run (buildTree options false root)).leaves) := by
  have henters := files.enters_walk options root
  have hfrontier := files.isFrontier_root root
  have hnodup := (henters.identities_nodup hfrontier).1
  have hpaths : ((files.run (walk options root)).map Listing.directory).Nodup :=
    List.Nodup.of_map files.identity (by rwa [List.map_map])
  have htrees := hforest.forall₂_stack henters hfrontier (by simpa using .root) <| by
    simp only [List.mem_singleton, forall_eq]
    intro path hpath hisBelow hmet
    simp only [Std.ExtTreeSet.mem_insert, Std.compare_eq_iff_eq, Std.ExtTreeSet.not_mem_empty,
      or_false] at hmet
    obtain rfl := hforest.identity_inj _ _ .root hpath hmet
    exact Path.not_isBelow_self hisBelow
  rw [run_buildTree henters hpaths] at htrees
  obtain _ | ⟨htree, -⟩ := htrees
  refine ⟨fun node => ⟨fun hnode => hnode.unique htree, ?_⟩, htree.stats_eq⟩
  rintro rfl
  exact htree

/-- Files with one directory below the root, which holds a script. -/
def shelf : StillFiles where
  list path :=
    if path = ⟨.root, ["w"]⟩ then .ok [⟨"a", path.child "a", true⟩, ⟨"b", path.child "b", false⟩]
    else .ok [⟨"c.nani", path.child "c.nani", false⟩]
  read _ := .ok [104, 105]
  signature _ := .error .notFound
  identity := Path.text
  directoryBound := 1
  listed := {"/w/a"}
  identity_mem_listed := by
    intro directory entries hlist entry hentry hkind
    split at hlist
    next hroot =>
      cases hlist
      rcases List.mem_pair.1 hentry with rfl | rfl
      · rw [hroot]
        decide
      · cases hkind
    next =>
      cases hlist
      rw [List.mem_singleton.1 hentry] at hkind
      cases hkind
  card_listed_le := le_rfl

theorem reaches_shelf {directory : Path} (h : Reaches shelf [] ⟨.root, ["w"]⟩ directory) :
    directory = ⟨.root, ["w"]⟩ ∨ directory = ⟨.root, ["w", "a"]⟩ := by
  induction h with
  | root => exact .inl rfl
  | entry _ hentry hkind _ ih =>
    rcases ih with rfl | rfl
    · rcases List.mem_pair.1 hentry with rfl | rfl
      · exact .inr rfl
      · cases hkind
    · rw [List.mem_singleton.1 hentry] at hkind
      cases hkind

theorem isForest_shelf : shelf.IsForest [] ⟨.root, ["w"]⟩ where
  path_eq directory hdirectory entry hentry := by
    rcases reaches_shelf hdirectory with rfl | rfl
    · rcases List.mem_pair.1 hentry with rfl | rfl <;> rfl
    · rw [List.mem_singleton.1 hentry]
  names_nodup directory hdirectory := by
    rcases reaches_shelf hdirectory with rfl | rfl <;> decide
  identity_inj directory other hdirectory hother hidentity := by
    rcases reaches_shelf hdirectory with rfl | rfl <;>
      rcases reaches_shelf hother with rfl | rfl <;> first | rfl | (revert hidentity; decide)

theorem buildTree_eq_recursion_shelf : shelf.IsForest ({} : WalkOptions).excluded ⟨.root, ["w"]⟩ ∧
    IsTree shelf {} ⟨.root, ["w"]⟩ 0 (shelf.run (buildTree {} false ⟨.root, ["w"]⟩)) ∧
    (shelf.run (buildTree {} false ⟨.root, ["w"]⟩)).stats =
      .aggregate (AggregateStats.merge
        (shelf.run (buildTree {} false ⟨.root, ["w"]⟩)).leaves) := by
  obtain ⟨htree, hstats⟩ := buildTree_eq_recursion {} isForest_shelf
  exact ⟨isForest_shelf, (htree _).2 rfl, hstats⟩

end StillFiles

end ScriptStats
