import ScriptStats.Proofs.Analysis.Assembly
import ScriptStats.Session.Basic

/-!
# Placement

Whatever statistics are found, by reading or in a cache, every directory that a walk has entered
finds its place in the tree, and with it all its scripts.
-/

namespace ScriptStats

@[simp]
theorem Node.scriptPaths_ofScript (entry : Entry) (stats : FileStats) :
    (ofScript entry stats).scriptPaths = [entry.path.text] := by
  rw [ofScript, scriptPaths]
  rfl

@[simp]
theorem Node.scriptPaths_ofDirectory (path : Path) (children : List Node) :
    (ofDirectory path children).scriptPaths = children.flatMap scriptPaths := by
  rw [ofDirectory, scriptPaths, if_pos rfl]

namespace StillFiles

variable {files : StillFiles} {options : WalkOptions}

/-- The findings of some listings: for each listing as many statistics as it has scripts. -/
abbrev Found (listings : List Listing) (all : List Findings) : Prop :=
  List.Forall₂ (fun (listing : Listing) (found : Findings) =>
    found.listing = listing ∧ found.stats.length = listing.scripts.length) listings all

theorem Found.listings_eq {listings : List Listing} {all : List Findings} (h : Found listings all) :
    listings = all.map Findings.listing := by
  rw [← List.forall₂_eq_eq_eq, List.forall₂_map_right_iff]
  exact h.imp fun _ _ hfound => hfound.1.symm

/-- The nodes of some entries, if `below` is found in the directories among them. A script takes the next
of the statistics. A directory takes what was found in it first, and then all that was found below it. -/
inductive Places : List Entry → List FileStats → List Findings → List Node → Prop where
  | nil : Places [] [] [] []
  | script {entry entries first stats below nodes} : entry.isDirectory = false →
      Places entries stats below nodes →
      Places (entry :: entries) (first :: stats) below (Node.ofScript entry first :: nodes)
  | directory {entry entries stats found inner rest children nodes} : entry.isDirectory = true →
      found.listing.directory = entry.path →
      Places found.listing.entries found.stats inner children →
      Places entries stats rest nodes →
      Places (entry :: entries) stats (found :: inner ++ rest)
        (Node.ofDirectory entry.path children :: nodes)

/-- The nodes of the directories that are due, if `all` is found in them. -/
inductive Settles : List Path → List Findings → List Node → Prop where
  | nil : Settles [] [] []
  | cons {directory due found inner rest children nodes} : found.listing.directory = directory →
      Places found.listing.entries found.stats inner children →
      Settles due rest nodes →
      Settles (directory :: due) (found :: inner ++ rest) (Node.ofDirectory directory children :: nodes)

namespace Settles

variable {due more : List Path} {all : List Findings} {nodes : List Node}

theorem length_eq (h : Settles due all nodes) : nodes.length = due.length := by
  induction h with
  | nil => rfl
  | cons _ _ _ ih => exact congrArg (· + 1) ih

/-- What is found in the first directories comes before what is found in the others. -/
theorem exists_append (h : Settles (due ++ more) all nodes) :
    ∃ below rest first last, all = below ++ rest ∧ nodes = first ++ last ∧
      Settles due below first ∧ Settles more rest last := by
  induction due generalizing all nodes with
  | nil => exact ⟨[], all, [], nodes, rfl, rfl, .nil, h⟩
  | cons directory due ih =>
    cases h with
    | cons hfound hplaces hsettles =>
      obtain ⟨below, rest, first, last, rfl, rfl, hfirst, hlast⟩ := ih hsettles
      exact ⟨_, rest, _, last, (List.append_assoc ..).symm, rfl, .cons hfound hplaces hfirst, hlast⟩

end Settles

/-- If the nodes of the directories among some entries wait first, each entry has its node. -/
theorem exists_children? (entries : List Entry) (stats : List FileStats) (below : List Findings)
    (nodes : List Node) (rest : WaitingNodes)
    (hstats : stats.length = (entries.filter (!·.isDirectory)).length)
    (hnodes : Settles (paths entries) below nodes)
    (hnodup : (paths entries ++ rest.map Prod.fst).Nodup) :
    ∃ children,
      Aggregation.children? entries stats ((paths entries).zip nodes ++ rest) =
        some (children, rest) ∧
      Places entries stats below children := by
  induction entries generalizing stats below nodes with
  | nil =>
    obtain rfl : stats = [] := List.length_eq_zero_iff.1 hstats
    cases hnodes
    exact ⟨[], rfl, .nil⟩
  | cons entry entries ih =>
    unfold Aggregation.children?
    by_cases hdirectory : entry.isDirectory = true
    · have hpaths : paths (entry :: entries) = entry.path :: paths entries := by
        simp [paths, hdirectory]
      rw [hpaths] at hnodes hnodup ⊢
      rw [List.filter_cons_of_neg (by simp [hdirectory])] at hstats
      cases hnodes with
      | @cons _ _ found inner rest' inner' nodes hfound hplaces hothers =>
        rw [List.cons_append, List.nodup_cons] at hnodup
        have hkeys : ((paths entries).zip nodes ++ rest).map Prod.fst =
            paths entries ++ rest.map Prod.fst := by
          rw [List.map_append, List.map_fst_zip hothers.length_eq.ge]
        have htake := WaitingNodes.take?_cons (Node.ofDirectory entry.path inner') (hkeys ▸ hnodup.1)
        obtain ⟨children, hchildren, hrest⟩ := ih stats rest' nodes hstats hothers hnodup.2
        exact ⟨_ :: children, by simp [hdirectory, htake, hchildren],
          .directory hdirectory hfound hplaces hrest⟩
    · simp only [Bool.not_eq_true] at hdirectory
      have hpaths : paths (entry :: entries) = paths entries := by simp [paths, hdirectory]
      rw [hpaths] at hnodes hnodup ⊢
      rw [List.filter_cons_of_pos (by simp [hdirectory])] at hstats
      obtain _ | ⟨first, stats⟩ := stats
      · simp at hstats
      simp only [List.length_cons, Nat.add_right_cancel_iff] at hstats
      obtain ⟨children, hchildren, hrest⟩ := ih stats below nodes hstats hnodes hnodup
      exact ⟨Node.ofScript entry first :: children, by simp [hdirectory, hchildren],
        .script hdirectory hrest⟩

/-- The nodes of the directories that are due wait in their order. -/
theorem exists_assemble? {met : Walk.Identities} {due : List (Path × Nat)}
    {listings : List Listing} (h : Enters files options met due listings)
    (hnodup : (listings.map Listing.directory).Nodup) {all : List Findings}
    (hall : Found listings all) :
    ∃ nodes, Aggregation.assemble? all = some ((due.map Prod.fst).zip nodes) ∧
      Settles (due.map Prod.fst) all nodes := by
  induction h generalizing all with
  | done =>
    cases hall
    exact ⟨[], rfl, .nil⟩
  | @next met met' directory depth due kept more hkeeps hmore ih =>
    obtain ⟨found, others, ⟨hlisting, hstats⟩, hothers, rfl⟩ := List.forall₂_cons_left_iff.1 hall
    rw [List.map_cons, List.nodup_cons] at hnodup
    obtain ⟨nodes, hassemble, hsettles⟩ := ih hnodup.2 hothers
    have hdue := hmore.due_sublist
    have hbelow : (Listing.below ⟨directory, kept⟩ depth).map Prod.fst = paths kept := by
      simp [Listing.below, Listing.directories, paths]
    rw [List.map_append, hbelow] at hdue hassemble hsettles
    -- The nodes that the walk left for this directory wait before all others.
    obtain ⟨below, rest, first, last, rfl, rfl, hfirst, hlast⟩ := hsettles.exists_append
    rw [List.zip_append hfirst.length_eq.symm] at hassemble
    have hkeys : ((due.map Prod.fst).zip last).map Prod.fst = due.map Prod.fst :=
      List.map_fst_zip hlast.length_eq.ge
    obtain ⟨children, hchildren, hplaces⟩ := exists_children? kept found.stats below first
      ((due.map Prod.fst).zip last) hstats hfirst (hkeys.symm ▸ hdue.nodup hnodup.2)
    have hfresh : directory ∉ due.map Prod.fst := fun hmem =>
      hnodup.1 (hdue.subset (List.mem_append_right _ hmem))
    refine ⟨Node.ofDirectory directory children :: last, ?_, ?_⟩
    · simp only [Aggregation.assemble?, hassemble, hlisting, Option.bind_eq_bind, Option.bind_some,
        hchildren, Option.pure_def]
      rw [WaitingNodes.put_eq_cons (hkeys.symm ▸ hfresh)]
      rfl
    · exact .cons (by rw [hlisting]) (by rwa [hlisting]) hlast

/-- The tree of all that a walk has found, with everything in its place. No other node is left. -/
theorem exists_places (files : StillFiles) (options : WalkOptions) (root : Path)
    {all : List Findings} (hall : Found (files.run (walk options root)) all) :
    ∃ found below children, all = found :: below ∧ found.listing.directory = root ∧
      Places found.listing.entries found.stats below children ∧
      Aggregation.assemble? all = some [(root, Node.ofDirectory root children)] := by
  have hpaths := files.directories_nodup options root
  obtain ⟨nodes, hassemble, hsettles⟩ := exists_assemble? (files.enters_walk options root) hpaths hall
  cases hsettles with
  | cons hfound hplaces hnone =>
    cases hnone
    exact ⟨_, _, _, by rw [List.append_nil], hfound, hplaces, hassemble⟩

/-- Each script among some entries, and each that is found below them, is in one of the nodes. -/
theorem Places.mem_scriptPaths {entries : List Entry} {stats : List FileStats}
    {below : List Findings} {nodes : List Node} (h : Places entries stats below nodes) :
    ∀ entry ∈ entries ++ below.flatMap (·.listing.entries), entry.isDirectory = false →
      entry.path.text ∈ nodes.flatMap Node.scriptPaths := by
  induction h with
  | nil => exact fun _ hentry => absurd hentry List.not_mem_nil
  | script _ _ ih =>
    intro other hother hscript
    rw [List.flatMap_cons, Node.scriptPaths_ofScript]
    rcases List.mem_cons.1 hother with rfl | hother
    · exact List.mem_append_left _ (List.mem_singleton_self _)
    · exact List.mem_append_right _ (ih other hother hscript)
  | directory hdirectory _ _ _ ihinner ih =>
    intro other hother hscript
    rw [List.flatMap_cons, Node.scriptPaths_ofDirectory, List.mem_append]
    simp only [List.cons_append, List.flatMap_cons, List.flatMap_append, List.mem_cons,
      List.mem_append] at hother ihinner ih
    rcases hother with rfl | hother | hother | hother | hother
    · rw [hscript] at hdirectory
      cases hdirectory
    · exact .inr (ih other (.inl hother) hscript)
    · exact .inl (ihinner other (.inl hother) hscript)
    · exact .inl (ihinner other (.inr hother) hscript)
    · exact .inr (ih other (.inr hother) hscript)

/-- There is a tree of all that a walk has found, and all scripts are in it. -/
theorem exists_root? (files : StillFiles) (options : WalkOptions) (root : Path)
    {all : List Findings} (hall : Found (files.run (walk options root)) all) :
    ∃ node, Aggregation.root? root all = some node ∧
      ∀ listing ∈ files.run (walk options root), ∀ entry ∈ listing.scripts,
        entry.path.text ∈ node.scriptPaths := by
  obtain ⟨found, below, children, hfindings, -, hplaces, hassemble⟩ :=
    files.exists_places options root hall
  refine ⟨Node.ofDirectory root children, ?_, fun listing hlisting entry hentry => ?_⟩
  · rw [Aggregation.root?, hassemble]
    simp
  · rw [Node.scriptPaths_ofDirectory]
    obtain ⟨hentry, hscript⟩ := List.mem_filter.1 hentry
    rw [hall.listings_eq] at hlisting
    obtain ⟨other, hother, rfl⟩ := List.mem_map.1 hlisting
    refine hplaces.mem_scriptPaths entry ?_ (by simpa using hscript)
    rw [hfindings, List.mem_cons] at hother
    rcases hother with rfl | hother
    · exact List.mem_append_left _ hentry
    · exact List.mem_append_right _ (List.mem_flatMap.2 ⟨other, hother, hentry⟩)

end StillFiles

end ScriptStats
