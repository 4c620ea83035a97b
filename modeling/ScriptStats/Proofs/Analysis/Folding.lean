import ScriptStats.Proofs.Analysis.Consistent
import ScriptStats.Proofs.Analysis.Levels
import ScriptStats.Proofs.Analysis.Placement
import ScriptStats.Proofs.Analysis.Recursion

/-!
# Folding up a walk

The listings of a walk are worked off backwards. Whatever links there are, no node and no statistics are
missing when a directory asks for them: all that is left in the end is the tree of the root, with every
directory that was entered in its place (`assemble_walk`).
-/

namespace ScriptStats

namespace Node

/-! ## Sums of leaves -/

theorem leavesOfAll_eq (nodes : List Node) : leavesOfAll nodes = nodes.flatMap leaves := by
  induction nodes with
  | nil => rw [leavesOfAll, List.flatMap_nil]
  | cons node nodes ih => rw [leavesOfAll, List.flatMap_cons, ih]

theorem leaves_ofScript (entry : Entry) (stats : FileStats) :
    (ofScript entry stats).leaves = [.file stats] := by
  rw [ofScript, leaves, if_pos rfl]

theorem leaves_ofDirectory (path : Path) (children : List Node) :
    (ofDirectory path children).leaves = children.flatMap leaves := by
  rw [ofDirectory, leaves, if_neg (by decide), leavesOfAll_eq]

/-- Among other items the statistics of the node count as much as its leaves, each of which is one script. -/
structure CountsAsLeaves (node : Node) : Prop where
  merge_eq (before after : List Stats) : AggregateStats.merge (before ++ node.stats :: after) =
    AggregateStats.merge (before ++ node.leaves ++ after)
  fileCount_eq : ∀ leaf ∈ node.leaves, leaf.fileCount = 1

theorem merge_map_stats {nodes : List Node} (h : ∀ node ∈ nodes, node.CountsAsLeaves)
    (before : List Stats) : AggregateStats.merge (before ++ nodes.map stats) =
      AggregateStats.merge (before ++ nodes.flatMap leaves) := by
  induction nodes generalizing before with
  | nil => rfl
  | cons node nodes ih =>
    obtain ⟨hnode, hnodes⟩ := List.forall_mem_cons.1 h
    rw [List.map_cons, hnode.merge_eq, ih hnodes, List.flatMap_cons, List.append_assoc]

theorem countsAsLeaves_ofScript (entry : Entry) (stats : FileStats) :
    (ofScript entry stats).CountsAsLeaves where
  merge_eq before after := by
    rw [leaves_ofScript, List.append_assoc]
    rfl
  fileCount_eq leaf hleaf := by
    rw [leaves_ofScript, List.mem_singleton] at hleaf
    rw [hleaf, Stats.fileCount]

theorem countsAsLeaves_ofDirectory {path : Path} {children : List Node}
    (h : ∀ child ∈ children, child.CountsAsLeaves) : (ofDirectory path children).CountsAsLeaves where
  merge_eq before after := by
    have hchildren := merge_map_stats h []
    rw [List.nil_append, List.nil_append] at hchildren
    rw [leaves_ofDirectory, ofDirectory, hchildren, AggregateStats.merge_group]
  fileCount_eq leaf hleaf := by
    rw [leaves_ofDirectory, List.mem_flatMap] at hleaf
    obtain ⟨child, hchild, hleaf⟩ := hleaf
    exact (h child hchild).fileCount_eq leaf hleaf

theorem total_fileCount {leaves : List Stats} (h : ∀ leaf ∈ leaves, leaf.fileCount = 1) :
    AggregateStats.total Stats.fileCount leaves = leaves.length := by
  induction leaves with
  | nil => rfl
  | cons leaf leaves ih =>
    obtain ⟨hleaf, hleaves⟩ := List.forall_mem_cons.1 h
    rw [AggregateStats.total, hleaf, ih hleaves, List.length_cons]
    omega

/-- Every directory in the tree has the statistics that the scripts below it amount to from left to right,
and counts them. -/
def IsSummed (node : Node) : Prop :=
  ∀ held, node.Holds held → held.isDirectory = true →
    held.stats = .aggregate (.merge held.leaves) ∧ held.stats.fileCount = held.leaves.length

theorem carries_isSummed :
    Carries (fun _ _ => True) fun node => node.CountsAsLeaves ∧ node.IsSummed where
  script {entry stats} _ := by
    refine ⟨countsAsLeaves_ofScript entry stats, fun held hheld hdirectory => ?_⟩
    cases hheld with
    | itself => cases hdirectory
    | within hchild => exact absurd hchild List.not_mem_nil
  directory {path children} hchildren := by
    have hleaves := fun child hchild => (hchildren child hchild).1
    have hcounts : (ofDirectory path children).CountsAsLeaves := countsAsLeaves_ofDirectory hleaves
    refine ⟨hcounts, fun held hheld _ => ?_⟩
    cases hheld with
    | itself =>
      have hstats : (ofDirectory path children).stats =
          .aggregate (.merge (ofDirectory path children).leaves) := by
        rw [leaves_ofDirectory]
        exact congrArg Stats.aggregate (merge_map_stats hleaves [])
      exact ⟨hstats, hstats ▸ total_fileCount hcounts.fileCount_eq⟩
    | within hchild hheld =>
      exact (hchildren _ hchild).2 held hheld ‹_›

/-! ## The directories of a tree -/

/-- The paths of the directories in a tree, each before those it holds. -/
def directoryPaths : Node → List String
  | ⟨_, path, kind, _, children⟩ =>
    if kind = .directory then path :: children.flatMap directoryPaths else []

theorem directoryPaths_ofScript (entry : Entry) (stats : FileStats) :
    (ofScript entry stats).directoryPaths = [] := by
  rw [ofScript, directoryPaths, if_neg (by decide)]

theorem directoryPaths_ofDirectory (path : Path) (children : List Node) :
    (ofDirectory path children).directoryPaths = path.text :: children.flatMap directoryPaths := by
  rw [ofDirectory, directoryPaths, if_pos rfl]

end Node

namespace StillFiles

variable {files : StillFiles} {options : WalkOptions} {root : Path}

/-- All that is found below some entries has its place, in the order in which it is found. -/
theorem Places.directoryPaths_eq {entries : List Entry} {stats : List FileStats}
    {below : List Findings} {nodes : List Node} (h : Places entries stats below nodes) :
    nodes.flatMap Node.directoryPaths = below.map (·.listing.directory.text) := by
  induction h with
  | nil => rfl
  | script _ _ ih => rw [List.flatMap_cons, Node.directoryPaths_ofScript, ih, List.nil_append]
  | directory _ hfound _ _ ihinner ih =>
    rw [List.flatMap_cons, Node.directoryPaths_ofDirectory, ihinner, ih, List.map_append,
      List.map_cons, hfound]

/-- Every directory that can be reached lists each name once, and every entry at the path of its name. -/
structure ListsByName (files : StillFiles) (excluded : List String) (root : Path) : Prop where
  path_eq : ∀ directory, Reaches files excluded root directory →
    ∀ entry ∈ files.entries directory, entry.path = directory.child entry.name
  names_nodup : ∀ directory, Reaches files excluded root directory →
    ((files.entries directory).map Entry.name).Nodup

/-- The entries of a listing have paths of their own. -/
theorem ListsByName.paths_nodup (h : files.ListsByName options.excluded root) {listing : Listing}
    (hlisting : listing ∈ files.run (walk options root)) :
    (listing.entries.map Entry.path).Nodup := by
  have henters := files.enters_walk options root
  have hreaches := henters.reaches (List.forall_mem_singleton.2 .root) listing hlisting
  obtain ⟨depth, met, met', hkeeps⟩ := henters.keeps hlisting
  refine (hkeeps.sublist.map Entry.path).nodup ?_
  rw [List.map_congr_left (h.path_eq listing.directory hreaches)]
  have hinjective : Function.Injective listing.directory.child := fun _ _ => Path.child_inj
  have hchildren := (h.names_nodup listing.directory hreaches).map hinjective
  rwa [List.map_map] at hchildren

theorem found_run_analyze (files : StillFiles) (withCache : Bool) (listings : List Listing) :
    Found listings (files.run (Aggregation.analyze withCache listings)) := by
  induction listings with
  | nil => exact .nil
  | cons listing listings ih =>
    simp only [Aggregation.analyze, run_bind, run_pure, run_mapM]
    exact .cons ⟨rfl, List.length_map _⟩ ih

theorem Found.fit {listings : List Listing} {all : List Findings} (h : Found listings all) :
    ∀ found ∈ all, Aggregation.Fit (fun _ _ => True) found.listing.entries found.stats := by
  induction h with
  | nil => exact fun _ hfound => absurd hfound List.not_mem_nil
  | cons hfound _ ih =>
    obtain ⟨rfl, hstats⟩ := hfound
    exact List.forall_mem_cons.2 ⟨List.forall₂_iff_zip.2 ⟨hstats.symm, fun _ => trivial⟩, ih⟩

/-- A walk over files that list their entries by name enters no directory twice and keeps no path twice.
Whatever is found in the scripts, the listings can then be worked off backwards: nothing is missing, and
the tree of the root is all that is left. Each directory that was entered has one place in it, as a child of
the directory whose listing kept it, and sums up its leaves. So a workspace has its tree. -/
theorem assemble_walk (files : StillFiles) (options : WalkOptions) (root : Path)
    (hfiles : files.ListsByName options.excluded root) :
    ((files.run (walk options root)).map Listing.directory).Nodup ∧
    (∀ listing ∈ files.run (walk options root), (listing.entries.map Entry.path).Nodup) ∧
    (∀ all, Found (files.run (walk options root)) all → ∃ found below children,
      all = found :: below ∧ found.listing.directory = root ∧
      Places found.listing.entries found.stats below children ∧
      Aggregation.assemble? all = some [(root, Node.ofDirectory root children)] ∧
      (Node.ofDirectory root children).directoryPaths =
        (files.run (walk options root)).map (·.directory.text) ∧
      (Node.ofDirectory root children).IsSummed) ∧
    ∀ withCache, ∃ all, Found (files.run (walk options root)) all ∧
      files.run (Aggregation.analyze withCache (files.run (walk options root))) = all ∧
      Aggregation.assemble? all = some [(root, files.run (buildTree options withCache root))] := by
  refine ⟨files.directories_nodup options root, fun _ => hfiles.paths_nodup, fun all hall => ?_,
    fun withCache => ?_⟩
  · obtain ⟨found, below, children, hfindings, hroot, hplaces, hassemble⟩ :=
      files.exists_places options root hall
    refine ⟨found, below, children, hfindings, hroot, hplaces, hassemble, ?_, ?_⟩
    · rw [Node.directoryPaths_ofDirectory, hplaces.directoryPaths_eq, hall.listings_eq, hfindings,
        List.map_map, List.map_cons, ← hroot]
      rfl
    · exact (Aggregation.each_assemble? Node.carries_isSummed hall.fit hassemble _
        List.mem_cons_self).2
  · have hall := files.found_run_analyze withCache (files.run (walk options root))
    obtain ⟨_, _, children, -, -, -, hassemble⟩ := files.exists_places options root hall
    refine ⟨_, hall, rfl, ?_⟩
    simp [buildTree, Aggregation.root?, hassemble]

theorem listsByName_detour : detour.ListsByName [] ⟨.root, ["w"]⟩ := by
  have hrooms : ∀ room ∈ rooms, (∀ entry ∈ room.entries, entry.path = room.directory.child entry.name) ∧
      (room.entries.map Entry.name).Nodup := by
    decide +kernel
  have hentries (directory : Path) :
      (∀ entry ∈ detour.entries directory, entry.path = directory.child entry.name) ∧
        ((detour.entries directory).map Entry.name).Nodup := by
    rw [entries_detour]
    cases hroom : room? directory with
    | none => exact ⟨fun _ hentry => absurd hentry List.not_mem_nil, List.nodup_nil⟩
    | some room =>
      have hdirectory := List.find?_some (p := fun room : Room => room.directory = directory) hroom
      obtain rfl : room.directory = directory := of_decide_eq_true hdirectory
      exact hrooms room (mem_rooms_of_room?_eq_some hroom)
  exact ⟨fun directory _ => (hentries directory).1, fun directory _ => (hentries directory).2⟩

/-- The directory to which two ways lead has its place on the first one. The directory below it is too deep
and has none. -/
theorem assemble_walk_detour :
    detour.ListsByName [] ⟨.root, ["w"]⟩ ∧
      (detour.run (buildTree { maxDepth := some 3 } true ⟨.root, ["w"]⟩)).directoryPaths =
        ["/w", "/w/a", "/w/a/b", "/w/a/b/t", "/w/c"] ∧
      (detour.run (buildTree { maxDepth := some 3 } true ⟨.root, ["w"]⟩)).IsSummed := by
  obtain ⟨-, -, hall, htree⟩ :=
    assemble_walk detour { maxDepth := some 3 } ⟨.root, ["w"]⟩ listsByName_detour
  obtain ⟨all, hfound, -, htree⟩ := htree true
  obtain ⟨_, _, children, -, -, -, hassemble, hpaths, hsummed⟩ := hall all hfound
  have hroot : detour.run (buildTree { maxDepth := some 3 } true ⟨.root, ["w"]⟩) =
      Node.ofDirectory ⟨.root, ["w"]⟩ children := by
    simpa using htree.symm.trans hassemble
  refine ⟨listsByName_detour, ?_, hroot ▸ hsummed⟩
  rw [hroot, hpaths]
  decide +kernel

end StillFiles

end ScriptStats
