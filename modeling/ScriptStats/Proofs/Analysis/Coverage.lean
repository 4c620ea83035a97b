import ScriptStats.Proofs.Analysis.Assembly
import ScriptStats.Proofs.Stats.Merge

/-!
# Coverage

A walk without a bound on its depth enters every identity that can be reached, once. What the
workspace counts does not depend on the order in which directories are listed.
-/

namespace ScriptStats

/-- Lists that agree but for their order when only keys are looked at agree in all that depends on
the keys. -/
theorem perm_flatMap_of_keys {α β κ γ : Type} {items : List α} {others : List β}
    (key : α → κ) (otherKey : β → κ) {f : α → List γ} {g : β → List γ}
    (hkeys : (items.map key).Perm (others.map otherKey))
    (hvalue : ∀ a ∈ items, ∀ b ∈ others, key a = otherKey b → (f a).Perm (g b)) :
    (items.flatMap f).Perm (others.flatMap g) := by
  induction items generalizing others with
  | nil =>
    obtain rfl : others = [] := by simpa using hkeys
    exact .refl _
  | cons a items ih =>
    have hmem : key a ∈ others.map otherKey := hkeys.subset (List.mem_cons_self ..)
    obtain ⟨b, hb, hkey⟩ := List.mem_map.1 hmem
    obtain ⟨before, after, rfl⟩ := List.append_of_mem hb
    have hrest : (items.map key).Perm ((before ++ after).map otherKey) := by
      have hfront := hkeys.trans (List.perm_middle.map otherKey)
      rw [List.map_cons, List.map_cons, hkey] at hfront
      exact hfront.cons_inv
    have htail := ih hrest fun a' ha' b' hb' =>
      hvalue a' (List.mem_cons_of_mem _ ha') b' (List.perm_middle.symm.subset
        (List.mem_cons_of_mem _ hb'))
    have hhead := hvalue a (List.mem_cons_self ..) b hb hkey.symm
    rw [List.flatMap_cons]
    refine (hhead.append htail).trans ?_
    rw [← List.flatMap_cons]
    exact List.perm_middle.symm.flatMap_right g

namespace StillFiles

/-- What an entry tells apart from its path: its name, and what it is if it is a directory. -/
def seen (files : StillFiles) (entry : Entry) : String × Option String :=
  (entry.name, if entry.isDirectory then some (files.identity entry.path) else none)

/-- What is listed in a directory depends on nothing but its identity. -/
def ListsByIdentity (files : StillFiles) : Prop :=
  ∀ directory other, files.identity directory = files.identity other →
    ((files.entries directory).map files.seen).Perm ((files.entries other).map files.seen)

/-- What is read of a script depends on nothing but its name and the identity of its directory. -/
def ReadsByIdentity (files : StillFiles) : Prop :=
  ∀ directory other, files.identity directory = files.identity other →
    ∀ entry ∈ files.entries directory, ∀ entry' ∈ files.entries other,
      entry.isDirectory = false → entry'.isDirectory = false → entry.name = entry'.name →
      (files.read entry.path).toOption = (files.read entry'.path).toOption

/-- The same files, but for the order in which directories are listed. -/
structure Reordered (files other : StillFiles) : Prop where
  entries_perm : ∀ directory, (other.entries directory).Perm (files.entries directory)
  read_eq : other.read = files.read
  identity_eq : other.identity = files.identity

variable {files other : StillFiles} {options : WalkOptions} {root : Path}

/-! ## Every identity is entered -/

theorem ListsByIdentity.exists_entry (h : files.ListsByIdentity) {directory other : Path}
    (hidentity : files.identity directory = files.identity other) {entry : Entry}
    (hentry : entry ∈ files.entries directory) (hkind : entry.isDirectory = true) :
    ∃ entry' ∈ files.entries other, entry'.isDirectory = true ∧ entry'.name = entry.name ∧
      files.identity entry'.path = files.identity entry.path := by
  have hmem := (h directory other hidentity).subset (List.mem_map_of_mem hentry)
  obtain ⟨entry', hentry', heq⟩ := List.mem_map.1 hmem
  simp only [seen, hkind, if_true, Prod.mk.injEq] at heq
  obtain ⟨hname, hsome⟩ := heq
  split at hsome
  next hkind' => exact ⟨entry', hentry', hkind', hname, Option.some.inj hsome⟩
  next => cases hsome

/-- The identities that a walk enters are those of the directories that can be reached. -/
theorem mem_identities_walk_iff (hdepth : options.maxDepth = none)
    (hlists : files.ListsByIdentity) {identity : String} :
    identity ∈ (files.run (walk options root)).map
        (fun listing => files.identity listing.directory) ↔
      ∃ directory, Reaches files options.excluded root directory ∧
        files.identity directory = identity := by
  have henters := files.enters_walk options root
  constructor
  · intro hmem
    obtain ⟨listing, hlisting, rfl⟩ := List.mem_map.1 hmem
    exact ⟨_, henters.reaches (by simpa using Reaches.root) listing hlisting, rfl⟩
  · rintro ⟨directory, hreach, rfl⟩
    have hroot := files.identity_root_mem options root
    induction hreach with
    | root => exact hroot
    | @entry directory entry _ hentry hkind hname ih =>
      obtain ⟨listing, hlisting, heq⟩ := List.mem_map.1 ih
      obtain ⟨entry', hentry', hkind', hname', hidentity'⟩ :=
        hlists.exists_entry heq.symm hentry hkind
      rw [← hidentity']
      refine (henters.covers hdepth hlisting hentry' hkind' (hname' ▸ hname)).elim ?_ id
      intro hmet
      simp only [Std.ExtTreeSet.mem_insert, Std.compare_eq_iff_eq, Std.ExtTreeSet.not_mem_empty,
        or_false] at hmet
      exact hmet ▸ hroot

/-! ## What the directories count together -/

theorem weave_perm (files : StillFiles) (entries : List Entry) (nodes : List Node)
    (hlength : nodes.length = (paths entries).length) :
    ((files.weave entries nodes).map Node.stats).Perm
      ((entries.filter (!·.isDirectory)).map (fun entry => Stats.file (files.stats entry.path)) ++
        nodes.map Node.stats) := by
  induction entries generalizing nodes with
  | nil =>
    obtain rfl : nodes = [] := by simpa [paths] using hlength
    exact .refl _
  | cons entry entries ih =>
    by_cases hkind : entry.isDirectory = true
    · obtain _ | ⟨node, nodes⟩ := nodes
      · simp [paths, hkind] at hlength
      have hnodes := ih nodes (by simpa [paths, hkind] using hlength)
      simpa [weave, hkind] using (hnodes.cons node.stats).trans List.perm_middle.symm
    · simp only [Bool.not_eq_true] at hkind
      have hnodes := ih nodes (by simpa [paths, hkind] using hlength)
      simpa [weave, hkind, Node.ofScript] using hnodes

/-- The statistics of all scripts of some listings. -/
def scriptStats (files : StillFiles) (listings : List Listing) : List Stats :=
  listings.flatMap fun listing =>
    listing.scripts.map fun entry => .file (files.stats entry.path)

/-- The nodes on the stack count what all scripts of the listings count. -/
theorem stack_alike {met : Walk.Identities} {due : List (Path × Nat)} {listings : List Listing}
    (h : Enters files options met due listings) :
    (AggregateStats.merge ((files.stack listings).map Node.stats)).Alike
      (AggregateStats.merge (files.scriptStats listings)) := by
  induction h with
  | done => exact .refl _
  | @next met met' directory depth due kept more _ hmore ih =>
    have hcount : (Listing.directories ⟨directory, kept⟩).length = (paths kept).length := by
      simp [Listing.directories, paths]
    have hlength := length_stack hmore
    simp only [Listing.below, List.length_append, List.length_map, hcount] at hlength
    have hweave := files.weave_perm kept ((files.stack more).take (paths kept).length)
      (by simp; omega)
    have hgroup := AggregateStats.merge_group []
      ((files.weave kept ((files.stack more).take (paths kept).length)).map Node.stats)
      (((files.stack more).drop (paths kept).length).map Node.stats)
    simp only [List.nil_append] at hgroup
    rw [stack, hcount, List.map_cons, Node.ofDirectory, hgroup]
    refine (AggregateStats.Alike.of_perm (hweave.append_right _)).trans ?_
    rw [List.append_assoc, ← List.map_append, List.take_append_drop]
    exact AggregateStats.Alike.append_left _ ih

/-- Files tell the same scripts of two directories of one identity. -/
theorem scripts_seen_perm {entries entries' : List Entry}
    (h : (entries.map files.seen).Perm (entries'.map files.seen)) :
    ((entries.filter fun entry =>
        !entry.isDirectory && Walk.isScriptName options entry.name).map files.seen).Perm
      ((entries'.filter fun entry =>
        !entry.isDirectory && Walk.isScriptName options entry.name).map files.seen) := by
  have hseen : (fun entry : Entry => !entry.isDirectory && Walk.isScriptName options entry.name) =
      (fun told => told.2.isNone && Walk.isScriptName options told.1) ∘ files.seen := by
    funext entry
    cases hkind : entry.isDirectory <;> simp [seen, hkind]
  rw [hseen, ← List.filter_map, ← List.filter_map]
  exact h.filter _

/-! ## The order of listings -/

variable {excluded : List String} {directory : Path} {n : Nat}

theorem reaches_iff_exists_reachesIn : Reaches files excluded root directory ↔
    ∃ n, ReachesIn files excluded root n directory := by
  constructor
  · intro hreaches
    induction hreaches with
    | root => exact ⟨0, .root⟩
    | entry _ hentry hkind hname ih =>
      obtain ⟨n, hreaches⟩ := ih
      exact ⟨n + 1, .entry hreaches hentry hkind hname⟩
  · rintro ⟨n, hreaches⟩
    induction hreaches with
    | root => exact .root
    | entry _ hentry hkind hname ih => exact .entry ih hentry hkind hname

theorem ReachesIn.of_reordered (h : files.Reordered other)
    (hreaches : ReachesIn files excluded root n directory) :
    ReachesIn other excluded root n directory := by
  induction hreaches with
  | root => exact .root
  | entry _ hentry hkind hname ih =>
    exact .entry ih ((h.entries_perm _).symm.subset hentry) hkind hname

namespace Reordered

theorem symm (h : files.Reordered other) : other.Reordered files :=
  ⟨fun directory => (h.entries_perm directory).symm, h.read_eq.symm, h.identity_eq.symm⟩

theorem reachesIn_iff (h : files.Reordered other) :
    ReachesIn other excluded root n directory ↔ ReachesIn files excluded root n directory :=
  ⟨.of_reordered h.symm, .of_reordered h⟩

theorem reaches_iff (h : files.Reordered other) :
    Reaches other excluded root directory ↔ Reaches files excluded root directory := by
  rw [reaches_iff_exists_reachesIn, reaches_iff_exists_reachesIn]
  exact exists_congr fun _ => h.reachesIn_iff

theorem seen_eq (h : files.Reordered other) : other.seen = files.seen := by
  funext entry
  rw [seen, seen, h.identity_eq]

theorem stats_eq (h : files.Reordered other) (script : Path) :
    other.stats script = files.stats script := by
  rw [StillFiles.stats_eq, StillFiles.stats_eq, h.read_eq]

theorem listsByIdentity (h : files.Reordered other) (hlists : files.ListsByIdentity) :
    other.ListsByIdentity := by
  intro directory directory' hidentity
  rw [h.identity_eq] at hidentity
  rw [h.seen_eq]
  exact ((h.entries_perm directory).map _).trans <|
    (hlists directory directory' hidentity).trans ((h.entries_perm directory').map _).symm

/-- Two listings of one identity hold scripts of the same statistics. -/
theorem scripts_perm (h : files.Reordered other) (hlists : files.ListsByIdentity)
    (hreads : files.ReadsByIdentity) {listing listing' : Listing}
    (hlisting : ∃ depth met met', Keeps files options depth met
      (files.entries listing.directory) listing.entries met')
    (hlisting' : ∃ depth met met', Keeps other options depth met
      (other.entries listing'.directory) listing'.entries met')
    (hidentity : files.identity listing.directory = files.identity listing'.directory) :
    (listing.scripts.map fun entry => Stats.file (files.stats entry.path)).Perm
      (listing'.scripts.map fun entry => Stats.file (other.stats entry.path)) := by
  obtain ⟨depth, met, met', hkeeps⟩ := hlisting
  obtain ⟨depth', met₁, met₁', hkeeps'⟩ := hlisting'
  have hlisted := (hlists _ _ hidentity).trans ((h.entries_perm listing'.directory).map _).symm
  rw [Listing.scripts, Listing.scripts, hkeeps.scripts_eq, hkeeps'.scripts_eq, List.map_eq_flatMap,
    List.map_eq_flatMap]
  refine perm_flatMap_of_keys _ _ (scripts_seen_perm hlisted)
    fun entry hentry entry' hentry' heq => ?_
  simp only [List.mem_filter, Bool.and_eq_true, Bool.not_eq_true'] at hentry hentry'
  have hread := hreads _ _ hidentity entry hentry.1 entry'
    ((h.entries_perm _).subset hentry'.1) hentry.2.1 hentry'.2.1 (Prod.mk.inj heq).1
  rw [h.stats_eq, StillFiles.stats_eq, StillFiles.stats_eq, hread]

/-- Where the same identities are entered, the same statistics are found. -/
theorem scriptStats_perm_of_mem_iff (h : files.Reordered other) (root : Path)
    (hlists : files.ListsByIdentity) (hreads : files.ReadsByIdentity)
    (hsame : ∀ identity, identity ∈ (files.run (walk options root)).map
        (fun listing => files.identity listing.directory) ↔
      identity ∈ (other.run (walk options root)).map
        fun listing => other.identity listing.directory) :
    (files.scriptStats (files.run (walk options root))).Perm
      (other.scriptStats (other.run (walk options root))) := by
  have henters := files.enters_walk options root
  have henters' := other.enters_walk options root
  refine perm_flatMap_of_keys (fun listing => files.identity listing.directory)
    (fun listing => other.identity listing.directory) ?_
    fun listing hlisting listing' hlisting' heq => ?_
  · exact (List.perm_ext_iff_of_nodup
      (henters.identities_nodup (files.isFrontier_root root)).1
      (henters'.identities_nodup (other.isFrontier_root root)).1).2 hsame
  · rw [h.identity_eq] at heq
    exact h.scripts_perm hlists hreads (henters.keeps hlisting) (henters'.keeps hlisting') heq

theorem scriptStats_perm (h : files.Reordered other) (root : Path)
    (hdepth : options.maxDepth = none) (hlists : files.ListsByIdentity) (hreads : files.ReadsByIdentity) :
    (files.scriptStats (files.run (walk options root))).Perm
      (other.scriptStats (other.run (walk options root))) := by
  refine h.scriptStats_perm_of_mem_iff root hlists hreads fun identity => ?_
  rw [mem_identities_walk_iff hdepth hlists,
    mem_identities_walk_iff hdepth (h.listsByIdentity hlists)]
  simp only [h.reaches_iff, h.identity_eq]

end Reordered

/-- The root counts what all scripts that are found count. -/
theorem buildTree_alike (files : StillFiles) (options : WalkOptions) (root : Path) :
    ∃ total, (files.run (buildTree options false root)).stats = .aggregate total ∧
      total.Alike
        (AggregateStats.merge (files.scriptStats (files.run (walk options root)))) := by
  have henters := files.enters_walk options root
  have hstack := run_buildTree henters (files.directories_nodup options root)
  have halike := stack_alike henters
  generalize files.run (walk options root) = listings at henters hstack halike
  cases henters with
  | @next met met' directory depth due kept more hkeeps hmore =>
    rw [hstack, List.map_singleton] at halike
    rw [stack] at hstack
    obtain ⟨hnode, -⟩ := List.cons.inj hstack
    rw [← hnode] at halike ⊢
    have hgroup := AggregateStats.merge_group [] ((files.weave kept ((files.stack more).take
      (Listing.directories ⟨root, kept⟩).length)).map Node.stats) []
    rw [List.nil_append, List.nil_append, List.append_nil] at hgroup
    exact ⟨_, rfl, hgroup ▸ halike⟩

/-- A walk over files that tell directories apart by their identities ends and enters all that can
be reached, each once. If scripts are told apart so too, the order of listings changes nothing but
the order of words. -/
theorem walk_covers (options : WalkOptions) (root : Path) (hdepth : options.maxDepth = none)
    (hlists : files.ListsByIdentity) :
    Enters files options ((∅ : Walk.Identities).insert (files.identity root)) [(root, 0)]
        (files.run (walk options root)) ∧
      ((files.run (walk options root)).map
        fun listing => files.identity listing.directory).Nodup ∧
      (∀ identity, identity ∈ (files.run (walk options root)).map
          (fun listing => files.identity listing.directory) ↔
        ∃ directory, Reaches files options.excluded root directory ∧
          files.identity directory = identity) ∧
      ∀ other, files.ReadsByIdentity → files.Reordered other →
        ∃ total total', (files.run (buildTree options false root)).stats = .aggregate total ∧
          (other.run (buildTree options false root)).stats = .aggregate total' ∧
          total.Alike total' := by
  have henters := files.enters_walk options root
  refine ⟨henters, (henters.identities_nodup (files.isFrontier_root root)).1,
    fun identity => mem_identities_walk_iff hdepth hlists,
    fun other hreads hreordered => ?_⟩
  obtain ⟨total, hstats, halike⟩ := files.buildTree_alike options root
  obtain ⟨total', hstats', halike'⟩ := other.buildTree_alike options root
  have hperm := hreordered.scriptStats_perm root hdepth hlists hreads
  exact ⟨total, total', hstats, hstats',
    halike.trans ((AggregateStats.Alike.of_perm hperm).trans halike'.symm)⟩

/-- Files of which every directory holds a script and a link back to itself. -/
def circle : StillFiles where
  list path := .ok [⟨"again", path.child "again", true⟩, ⟨"a.nani", path.child "a.nani", false⟩]
  read _ := .ok [104, 105]
  signature _ := .error .notFound
  identity _ := "/w"
  directoryBound := 1
  listed := {"/w"}
  identity_mem_listed _ _ _ _ := Finset.mem_singleton_self _
  card_listed_le := le_rfl

/-- The same files, with each listing turned round. -/
def circleTurned : StillFiles where
  __ := circle
  list path := .ok [⟨"a.nani", path.child "a.nani", false⟩, ⟨"again", path.child "again", true⟩]
  identity_mem_listed _ _ _ _ := Finset.mem_singleton_self _

theorem listsByIdentity_circle : circle.ListsByIdentity :=
  fun _ _ _ => .refl _

theorem readsByIdentity_circle : circle.ReadsByIdentity :=
  fun _ _ _ _ _ _ _ _ _ _ => rfl

theorem reordered_circle : circle.Reordered circleTurned where
  entries_perm _ := .swap ..
  read_eq := rfl
  identity_eq := rfl

theorem walk_covers_circle :
    ({} : WalkOptions).maxDepth = none ∧ circle.ListsByIdentity ∧
      Enters circle {} ((∅ : Walk.Identities).insert (circle.identity ⟨.root, ["w"]⟩))
        [(⟨.root, ["w"]⟩, 0)] (circle.run (walk {} ⟨.root, ["w"]⟩)) ∧
      ((circle.run (walk {} ⟨.root, ["w"]⟩)).map
        fun listing => circle.identity listing.directory).Nodup ∧
      ∃ total total', (circle.run (buildTree {} false ⟨.root, ["w"]⟩)).stats = .aggregate total ∧
        (circleTurned.run (buildTree {} false ⟨.root, ["w"]⟩)).stats = .aggregate total' ∧
        total.Alike total' := by
  obtain ⟨henters, hnodup, -, horder⟩ := walk_covers {} ⟨.root, ["w"]⟩ rfl
    listsByIdentity_circle
  exact ⟨rfl, listsByIdentity_circle, henters, hnodup,
    horder circleTurned readsByIdentity_circle reordered_circle⟩

end StillFiles

end ScriptStats
