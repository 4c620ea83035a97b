import ScriptStats.Proofs.Analysis.Frontier

/-!
# Assembly

The nodes that wait are looked up by their paths. Since the listings are worked off backwards, they
wait in the order in which they are wanted, and a stack does as well.
-/

namespace ScriptStats

namespace StillFiles

/-- The children of a directory in the order of its entries, if `nodes` are those of the directories
among them. -/
def weave (files : StillFiles) : List Entry → List Node → List Node
  | [], _ => []
  | entry :: entries, nodes =>
    if entry.isDirectory then nodes.head?.toList ++ files.weave entries nodes.tail
    else Node.ofScript entry (files.stats entry.path) :: files.weave entries nodes

/-- The nodes of the directories that are due, from the listings of all that are found. -/
def stack (files : StillFiles) : List Listing → List Node
  | [] => []
  | listing :: more =>
    let due := files.stack more
    let count := listing.directories.length
    Node.ofDirectory listing.directory (files.weave listing.entries (due.take count)) ::
      due.drop count

/-- A listing with the statistics of its scripts. -/
def findings (files : StillFiles) (listing : Listing) : Findings :=
  ⟨listing, listing.scripts.map fun entry => files.stats entry.path⟩

end StillFiles

namespace WaitingNodes

theorem filter_eq_self {path : Path} {waiting : WaitingNodes}
    (h : path ∉ waiting.map Prod.fst) : waiting.filter (·.1 ≠ path) = waiting := by
  rw [List.filter_eq_self]
  rintro ⟨other, node⟩ hmem
  simp only [ne_eq, decide_not, Bool.not_eq_true', decide_eq_false_iff_not]
  rintro rfl
  exact h (List.mem_map_of_mem hmem)

theorem take?_cons {path : Path} {waiting : WaitingNodes} (node : Node)
    (h : path ∉ waiting.map Prod.fst) :
    take? path ((path, node) :: waiting) = some (node, waiting) := by
  rw [take?, List.lookup_cons_self, Option.map_some, List.filter_cons_of_neg (by simp),
    filter_eq_self h]

theorem put_eq_cons {path : Path} {node : Node} {waiting : WaitingNodes}
    (h : path ∉ waiting.map Prod.fst) : put path node waiting = (path, node) :: waiting := by
  rw [put, filter_eq_self h]

end WaitingNodes

namespace StillFiles

variable {files : StillFiles} {options : WalkOptions}

/-- The paths of the directories among some entries. -/
def paths (entries : List Entry) : List Path :=
  (entries.filter (·.isDirectory)).map Entry.path

theorem children?_eq (files : StillFiles) (entries : List Entry) (nodes : List Node)
    (rest : WaitingNodes) (hlength : nodes.length = (paths entries).length)
    (hnodup : (paths entries ++ rest.map Prod.fst).Nodup) :
    Aggregation.children? entries
        ((entries.filter (!·.isDirectory)).map fun entry => files.stats entry.path)
        ((paths entries).zip nodes ++ rest) =
      some (files.weave entries nodes, rest) := by
  induction entries generalizing nodes with
  | nil => rfl
  | cons entry entries ih =>
    unfold Aggregation.children? weave
    by_cases hdirectory : entry.isDirectory = true
    · have hpaths : paths (entry :: entries) = entry.path :: paths entries := by
        simp [paths, hdirectory]
      rw [hpaths] at hlength hnodup ⊢
      obtain _ | ⟨node, nodes⟩ := nodes
      · simp at hlength
      simp only [List.length_cons, Nat.add_right_cancel_iff] at hlength
      rw [List.cons_append, List.nodup_cons] at hnodup
      have hkeys : ((paths entries).zip nodes ++ rest).map Prod.fst =
          paths entries ++ rest.map Prod.fst := by
        rw [List.map_append, List.map_fst_zip hlength.ge]
      have htake := WaitingNodes.take?_cons node (hkeys ▸ hnodup.1)
      simp [hdirectory, htake, ih nodes hlength hnodup.2]
    · simp only [Bool.not_eq_true] at hdirectory
      have hpaths : paths (entry :: entries) = paths entries := by simp [paths, hdirectory]
      rw [hpaths] at hlength hnodup ⊢
      simp [hdirectory, ih nodes hlength hnodup]

theorem length_stack {met : Walk.Identities} {due : List (Path × Nat)} {listings : List Listing}
    (h : Enters files options met due listings) : (files.stack listings).length = due.length := by
  induction h with
  | done => rfl
  | @next met met' directory depth due kept more _ _ ih =>
    simp only [List.length_append, Listing.below, List.length_map] at ih
    simp only [stack, List.length_cons, List.length_drop, ih]
    omega

theorem assemble?_eq {met : Walk.Identities} {due : List (Path × Nat)} {listings : List Listing}
    (h : Enters files options met due listings)
    (hnodup : (listings.map Listing.directory).Nodup) :
    Aggregation.assemble? (listings.map files.findings) =
      some ((due.map Prod.fst).zip (files.stack listings)) := by
  induction h with
  | done => rfl
  | @next met met' directory depth due kept more hkeeps hmore ih =>
    rw [List.map_cons, List.nodup_cons] at hnodup
    have hlength := length_stack hmore
    have hdue := hmore.due_sublist
    have hbelow : (Listing.below ⟨directory, kept⟩ depth).map Prod.fst = paths kept := by
      simp [Listing.below, Listing.directories, paths]
    have hcount : (Listing.directories ⟨directory, kept⟩).length = (paths kept).length := by
      simp [Listing.directories, paths]
    rw [List.map_append, hbelow] at hdue
    rw [List.length_append, ← List.length_map Prod.fst, hbelow] at hlength
    have hkeys : ((due.map Prod.fst).zip
        ((files.stack more).drop (paths kept).length)).map Prod.fst = due.map Prod.fst :=
      List.map_fst_zip (by simp; omega)
    have hzip : (paths kept ++ due.map Prod.fst).zip (files.stack more) =
        (paths kept).zip ((files.stack more).take (paths kept).length) ++
          (due.map Prod.fst).zip ((files.stack more).drop (paths kept).length) := by
      rw [← List.zip_append (by simp; omega), List.take_append_drop]
    have hchildren := files.children?_eq kept ((files.stack more).take (paths kept).length)
      ((due.map Prod.fst).zip ((files.stack more).drop (paths kept).length))
      (by simp; omega) (hkeys.symm ▸ hdue.nodup hnodup.2)
    have hfresh : directory ∉ due.map Prod.fst := fun hmem =>
      hnodup.1 (hdue.subset (List.mem_append_right _ hmem))
    rw [List.map_cons, Aggregation.assemble?, ih hnodup.2, List.map_append, hbelow, hzip]
    simp only [findings, Listing.scripts, Option.bind_eq_bind, Option.bind_some, hchildren,
      Option.pure_def]
    rw [WaitingNodes.put_eq_cons (hkeys.symm ▸ hfresh), stack, hcount]
    rfl

/-- The tree below a root whose directories have paths of their own. -/
theorem run_buildTree {root : Path} {met : Walk.Identities} {depth : Nat}
    (h : Enters files options met [(root, depth)] (files.run (walk options root)))
    (hnodup : ((files.run (walk options root)).map Listing.directory).Nodup) :
    files.stack (files.run (walk options root)) = [files.run (buildTree options false root)] := by
  obtain ⟨node, hnode⟩ := List.length_eq_one_iff.1 (length_stack h)
  have hassemble := assemble?_eq h hnodup
  rw [hnode] at hassemble ⊢
  rw [buildTree, run_bind, run_bind, run_pure, run_analyze, Aggregation.root?]
  change [node] = [((Aggregation.assemble? (List.map files.findings _)).bind _).getD _]
  rw [hassemble]
  simp

end StillFiles

end ScriptStats
