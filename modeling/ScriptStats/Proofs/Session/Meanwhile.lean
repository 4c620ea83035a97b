import ScriptStats.Proofs.Session.CacheFile
import ScriptStats.Proofs.Session.Racing
import ScriptStats.Proofs.Session.Uninterrupted

/-!
# What becomes of a save in the meantime

A save is handled at any moment since the session began, with any number of refreshes under way. The
refreshes that begin from then on show the script as it was saved, unless an old one has come just
between reading the script and remembering what it has read. Then it remembers what is no longer true.
-/

namespace ScriptStats

open Program Moment

namespace Overlap

open Journal RefreshEvent World

variable {v : Version} {scene : Overlap} {depth : Nat}

/-- The scene has come about since the session began. -/
def IsReached (depth : Nat) (scene : Overlap) : Prop :=
  ∃ root settings extraExcludes useCache disk steps,
    scene = (fresh root settings extraExcludes useCache disk).run depth steps

theorem IsReached.sound (h : scene.IsReached depth) : scene.Sound := by
  obtain ⟨root, settings, extraExcludes, useCache, disk, steps, rfl⟩ := h
  exact (sound_fresh root settings extraExcludes useCache disk).run steps

theorem IsReached.truthful (h : scene.IsReached depth) (key : String) : scene.Truthful key := by
  obtain ⟨root, settings, extraExcludes, useCache, disk, steps, rfl⟩ := h
  have hfresh : Truthful (fresh root settings extraExcludes useCache disk) key :=
    fun _ _ _ hrunning => by cases hrunning
  exact hfresh.run steps

/-- A save is handled: all at a stretch, or up to the refresh, which then is one of those that begin
later. -/
def Handles (moment : Moment) (depth : Nat) (path : Path) (desk left : Desk) : Prop :=
  outcome (Session.prepare (moment.host depth) .documentSaved (some path)) desk = (.ok (), left) ∨
    ∃ result, outcome (Session.handle (moment.host depth) .documentSaved (some path)) desk =
      (.ok result, left)

theorem Handles.ready {moment : Moment} {path : Path} {desk left : Desk}
    (h : Handles moment depth path desk left) (hshows : moment.Shows v) (hpath : path.text = v.path)
    (henabled : desk.session.cacheEnabled = true) : left.Ready v desk.session.cacheNumber := by
  obtain hprepared | ⟨result, hhandled⟩ := h
  · exact Session.ready_prepare_saved hpath henabled hprepared
  · exact Session.ready_handle_saved hshows hpath henabled hhandled

/-! ## Two drafts -/

/-- A disk with a directory where the file of the cache would be, so that the cache is not written. -/
def blocked : Disk where
  items := [(["c"], .directory)]

theorem read_blocked : blocked.read ⟨.root, ["c"]⟩ = .error (.fault .isDirectory "/c") := by
  rw [Disk.read, Disk.status, Disk.locate_item Disk.isRootName_c rfl (by simp) .follow]
  rfl

/-- A refresh of the first draft that is about to walk through the workspace. -/
def begun : Overlap where
  desk := ⟨{ writer with generation := 1, cache := some { path := some ⟨.root, ["c"]⟩ } }, blocked⟩
  running := Function.update (fun _ => none) 1
    (some (.analysing 0 (buildTree writer.options true ⟨.root, ["w"]⟩)))
  journal := [began 1]

theorem run_begun (depth : Nat) :
    run depth (fresh ⟨.root, ["w"]⟩ writer.settings [] none blocked)
      [.begin (draft [64] 1), .advance (draft [64] 1) 1] = begun := by
  have hbegin : step depth (fresh ⟨.root, ["w"]⟩ writer.settings [] none blocked)
      (.begin (draft [64] 1)) = ⟨⟨{ writer with generation := 1 }, blocked⟩,
        Function.update (fun _ => none) 1 (some (.opening writer.settings)), [began 1]⟩ := step_begin rfl
  rw [run, List.foldl_cons, List.foldl_cons, hbegin]
  refine (step_opening rfl
    (outcome_openCache_writer _ depth 1 read_blocked rfl)).trans ?_
  rw [Function.update_idem]
  rfl

/-- The refresh has gone on by some steps. -/
def goneOn (depth count : Nat) : Overlap :=
  begun.run depth (List.replicate count (.advance (draft [64] 1) 1))

theorem isReached_goneOn (depth count : Nat) : (goneOn depth count).IsReached depth := by
  refine ⟨⟨.root, ["w"]⟩, writer.settings, [], none, blocked,
    [.begin (draft [64] 1), .advance (draft [64] 1) 1] ++
      List.replicate count (.advance (draft [64] 1) 1), ?_⟩
  rw [run_append, run_begun]
  rfl

/-- After six steps the first draft is about to be read. -/
theorem running_goneOn_six (depth : Nat) : ∃ next more, (goneOn depth 6).running 1 =
    some (.analysing 0 (.ask (.read ⟨.root, ["w", "a.nani"]⟩) next)) ∧
      next (.ok [32]) = .ask (.remember "/w/a.nani" "1:1" (Script.stats [' '])) more :=
  ⟨_, _, rfl, rfl⟩

/-- After seven steps its statistics are about to be remembered. -/
theorem running_goneOn_seven (depth : Nat) : ∃ next, (goneOn depth 7).running 1 =
    some (.analysing 0 (.ask (.remember "/w/a.nani" "1:1" (Script.stats ['@'])) next)) :=
  ⟨_, rfl⟩

/-- The second draft has the same signature. -/
def second : Version :=
  (draft [32] 1).version ⟨.root, ["w", "a.nani"]⟩

theorem shows_second : (draft [32] 1).Shows second :=
  shows_version (byText_draft [32] 1) _

theorem fresh_second : second.fresh = Script.stats [' '] :=
  rfl

/-- The cache cannot be written, and that is no failure. -/
theorem exists_outcome_persistCache {moment : Moment} {tree : Node} {session : Session} {cache : Cache}
    (hcache : session.cache = some cache) (hpath : cache.path = some ⟨.root, ["c"]⟩) : ∃ left,
      outcome (Session.persistCache (moment.host depth) tree) ⟨session, blocked⟩ = (.ok (), left) := by
  have hprune := @Session.outcome_mapCache ⟨session, blocked⟩ (·.prune tree.scriptPaths) cache hcache
  have hkept := (cache.path_prune tree.scriptPaths).trans hpath
  rw [Session.persistCache, outcome_bind_ok hprune, outcome_bind_ok (Desk.outcome_get _)]
  simp only [Desk.withCache, Option.bind_some]
  cases hdue : (cache.prune tree.scriptPaths).due? with
  | none => exact ⟨_, rfl⟩
  | some due =>
    obtain ⟨path, text⟩ := due
    obtain ⟨-, hdue, -⟩ := Cache.due?_eq_some hdue
    obtain rfl := Option.some_inj.1 (hdue.symm.trans hkept)
    have hrefused := Session.outcome_writeCache moment depth ⟨.root, ["c"]⟩ text
      ⟨{ session with cache := some (cache.prune tree.scriptPaths) }, blocked⟩
    rw [@Disk.outcome_writeText_of_directory blocked "c" Disk.isRootName_c rfl text] at hrefused
    exact ⟨_, outcome_bind_ok hrefused _⟩

theorem exists_outcome_store {moment : Moment} {snapshot : Snapshot} {session : Session}
    {cache : Cache} (hcache : session.cache = some cache)
    (hpath : cache.path = some ⟨.root, ["c"]⟩) : ∃ left,
      outcome (Session.store moment depth snapshot) ⟨session, blocked⟩ = (.ok (some snapshot), left) := by
  obtain ⟨left, hpersist⟩ :=
    @exists_outcome_persistCache depth moment snapshot.tree session cache hcache hpath
  refine ⟨left, ?_⟩
  rw [Session.store, outcome_bind_ok hpersist, outcome_bind_ok (Session.outcome_noteTotals ..)]
  rfl

/-- The cache of the refresh, once it has forgotten the script. -/
def forgotten : Cache :=
  Cache.invalidate { path := some ⟨.root, ["c"]⟩ } "/w/a.nani"

theorem outcome_buildTree_forgotten (depth : Nat) :
    outcome ((draft [32] 1).atWork depth (buildTree writer.options true ⟨.root, ["w"]⟩))
      ⟨{ writer with generation := 2, cache := some forgotten }, blocked⟩ =
        (.ok (draftTree [' ']), ⟨{ writer with
          generation := 2
          cache := some (forgotten.store "/w/a.nani" "1:1" (Script.stats [' ']) "") }, blocked⟩) := by
  have hstats : outcome ((draft [32] 1).atWork depth (ScriptFile.stats true ⟨.root, ["w", "a.nani"]⟩))
      ⟨{ writer with generation := 2, cache := some forgotten }, blocked⟩ =
        (.ok (Script.stats [' ']), ⟨{ writer with
          generation := 2
          cache := some (forgotten.store "/w/a.nani" "1:1" (Script.stats [' ']) "") }, blocked⟩) :=
    rfl
  exact outcome_buildTree_of_walk (eval_walk_draft [32] 1) rfl hstats

/-- The second draft is saved while the refresh of the first one is under way. -/
theorem exists_outcome_handle (depth : Nat) : ∃ result left,
    outcome (Session.handle ((draft [32] 1).host depth) .documentSaved
      (some ⟨.root, ["w", "a.nani"]⟩)) begun.desk = (.ok result, left) := by
  have hopen : outcome (Session.openCache ((draft [32] 1).host depth)) begun.desk =
      (.ok true, begun.desk) := Session.outcome_openCache_of_cache rfl rfl
  have hrefresh := @Session.outcome_refresh_of_tree (draft [32] 1) depth
    (begun.desk.withCache (some forgotten)) _ forgotten rfl rfl rfl _
    (outcome_buildTree_forgotten depth)
  obtain ⟨left, hstore⟩ := @exists_outcome_store depth (draft [32] 1)
    ⟨2, ⟨.root, ["w"]⟩, draftTree [' ']⟩ { writer with
      generation := 2
      snapshot := some ⟨2, ⟨.root, ["w"]⟩, draftTree [' ']⟩
      cache := some (forgotten.store "/w/a.nani" "1:1" (Script.stats [' ']) "") } _ rfl rfl
  refine ⟨some ⟨2, ⟨.root, ["w"]⟩, draftTree [' ']⟩, left, ?_⟩
  rw [Session.outcome_handle (Session.outcome_prepare_saved hopen rfl _)]
  exact hrefresh.trans hstore

/-- What is left by the save. -/
theorem exists_cache_of_handle {depth : Nat} {result : Option Snapshot} {left : Desk}
    (hhandle : outcome (Session.handle ((draft [32] 1).host depth) .documentSaved
      (some ⟨.root, ["w", "a.nani"]⟩)) begun.desk = (.ok result, left)) :
    ∃ snapshot cache,
      left.session = { writer with generation := 2, snapshot, cache := some cache } := by
  have hopen : outcome (Session.openCache ((draft [32] 1).host depth)) begun.desk =
      (.ok true, begun.desk) := Session.outcome_openCache_of_cache rfl rfl
  have hpublishes := Session.publishes_handle_saved hopen rfl rfl ⟨.root, ["w", "a.nani"]⟩
    (outcome_buildTree_forgotten depth)
  rw [hhandle] at hpublishes
  obtain ⟨after, hsession⟩ := hpublishes.isOf
  have hready := Session.ready_handle_saved shows_second rfl rfl hhandle
  obtain ⟨cache, hcache⟩ := Option.isSome_iff_exists.1 hready.isSome
  obtain rfl : after = some cache := by
    rw [← hcache, hsession]
  exact ⟨_, cache, hsession⟩

/-- What the cache knows of the second draft is found. -/
theorem outcome_stats_known {desk : Desk} {cache : Cache} (hcache : desk.session.cache = some cache)
    {stats : FileStats} (hget : cache.get? "/w/a.nani" "1:1" = some stats) :
    outcome ((draft [32] 1).atWork depth (ScriptFile.stats true ⟨.root, ["w", "a.nani"]⟩)) desk =
      (.ok stats, desk) :=
  @outcome_cachedStats_of_get? (draft [32] 1) depth desk ⟨.root, ["w", "a.nani"]⟩ ⟨1, 1⟩ rfl cache
    hcache stats hget

/-- A refresh publishes what the cache knows of the script. -/
theorem exists_run_known {generation : Nat} {snapshot : Option Snapshot} {cache : Cache}
    (hsession : scene.desk.session = { writer with generation, snapshot, cache := some cache })
    {stats : FileStats} (hget : cache.get? "/w/a.nani" "1:1" = some stats) :
    ∃ steps tree, (∀ step ∈ steps, step.Leaves second 0) ∧
      finished (generation + 1) (some ⟨generation + 1, ⟨.root, ["w"]⟩, tree⟩) ∈
        (scene.run depth steps).journal ∧ tree.Shows "/w/a.nani" (.file stats) := by
  obtain ⟨⟨session, disk⟩, running, journal⟩ := scene
  obtain rfl := hsession
  have hstats := @outcome_stats_known depth
    ⟨{ writer with generation := generation + 1, snapshot, cache := some cache }, disk⟩ cache rfl
    stats hget
  have htree := outcome_buildTree_of_walk (eval_walk_draft [32] 1) rfl hstats
  obtain ⟨steps, hsteps, hfinished⟩ := @exists_run_refresh
    ⟨⟨{ writer with generation, snapshot, cache := some cache }, disk⟩, running, journal⟩ depth
    (draft [32] 1) rfl rfl cache rfl _ _ htree
  refine ⟨steps, _, fun step hstep => ?_, hfinished, .within List.mem_cons_self (.itself nofun)⟩
  rcases hsteps step hstep with rfl | ⟨_, rfl⟩
  · trivial
  · exact shows_second

/-- A refresh that begins after another one has remembered statistics of the script publishes those. -/
theorem exists_run_remembers {generation : Nat} {snapshot : Option Snapshot} {cache : Cache}
    (hsession : scene.desk.session = { writer with generation, snapshot, cache := some cache })
    {stats : FileStats} {next : Unit → Job Node} (hrunning : scene.running 1 =
      some (.analysing 0 (.ask (.remember "/w/a.nani" "1:1" stats) next))) :
    ∃ steps tree, (∀ step ∈ steps, step.Leaves second 0) ∧
      finished (generation + 1) (some ⟨generation + 1, ⟨.root, ["w"]⟩, tree⟩) ∈
        (scene.run depth steps).journal ∧ tree.Shows "/w/a.nani" (.file stats) := by
  have hcache : scene.desk.session.cache = some cache := by rw [hsession]
  have hleft : (scene.step depth (.advance (draft [32] 1) 1)).desk.session = { writer with
      generation, snapshot, cache := some (cache.store "/w/a.nani" "1:1" stats "") } := by
    have hnumber : scene.desk.session.cacheNumber = 0 := by
      rw [hsession]
      rfl
    rw [step_remember (hnumber ▸ hrunning) hcache, Desk.withCache, hsession]
    rfl
  obtain ⟨steps, tree, hsteps, hfinished, hshown⟩ :=
    @exists_run_known _ depth _ _ _ hleft stats (Cache.get?_store ..)
  exact ⟨.advance (draft [32] 1) 1 :: steps, tree, List.forall_mem_cons.2 ⟨shows_second, hsteps⟩,
    hfinished, hshown⟩

/-! ## The save -/

/-- A save is lost to no refresh under way but one that is just about to remember other statistics under
the signature that the script has kept: wherever the others are, all refreshes that begin after the cache
has forgotten the script show it as it is. -/
theorem published_after_saved (hreached : scene.IsReached depth) {moment : Moment}
    (hshows : moment.Shows v) {path : Path} (hpath : path.text = v.path)
    (henabled : scene.desk.session.cacheEnabled = true) {left : Desk}
    (hsaved : Handles moment depth path scene.desk left)
    (hidle : ∀ text stats, v.IsSigned text → scene.IsAboutTo v.path text stats → stats = v.fresh)
    {later : List Step} (hlater : ∀ step ∈ later, step.Leaves v scene.desk.session.cacheNumber)
    {generation : Nat}
    {snapshot : Snapshot} (hbegan : began generation ∉ scene.journal)
    (hfinished : finished generation (some snapshot) ∈
      (run depth { scene with desk := left } later).journal) : v.ShownBy snapshot.tree := by
  have hready := hsaved.ready hshows hpath henabled
  have hguards := guards_of_saved hreached.sound (hreached.truthful v.path) hready hidle
  exact (hguards.run later hlater).finished generation snapshot hfinished hbegan

/-- The refresh of the first draft is about to read at the save, and reads the second one. -/
theorem published_after_saved_reading : ∃ left later tree,
    Handles (draft [32] 1) 980 ⟨.root, ["w", "a.nani"]⟩ (goneOn 980 6).desk left ∧
    finished 3 (some ⟨3, ⟨.root, ["w"]⟩, tree⟩) ∈
      (run 980 { goneOn 980 6 with desk := left } (.advance (draft [32] 1) 1 :: later)).journal ∧
    tree.Shows "/w/a.nani" (.file (Script.stats [' '])) ∧ second.ShownBy tree := by
  obtain ⟨result, left, hhandle⟩ := exists_outcome_handle 980
  obtain ⟨snapshot, cache, hsession⟩ := exists_cache_of_handle hhandle
  obtain ⟨next, more, hrunning, hnext⟩ := running_goneOn_six 980
  have hread := @step_ask { goneOn 980 6 with desk := left } 980 (draft [32] 1) 1 0 _ next hrunning
    (.ok [32]) left rfl
  obtain ⟨later, tree, hlater, hfinished, hshown⟩ := @exists_run_remembers
    (Overlap.step 980 { goneOn 980 6 with desk := left } (.advance (draft [32] 1) 1)) 980 2 snapshot
    cache (by rw [hread, hsession]) (Script.stats [' ']) more
    (by simp only [hread, Function.update_self, hnext])
  have hsaved : Handles (draft [32] 1) 980 ⟨.root, ["w", "a.nani"]⟩ (goneOn 980 6).desk left :=
    .inr ⟨result, hhandle⟩
  have hjournal : (goneOn 980 6).journal = [began 1] := rfl
  have hidle (text : String) (stats : FileStats) (_ : second.IsSigned text)
      (habout : (goneOn 980 6).IsAboutTo second.path text stats) : stats = second.fresh := by
    obtain ⟨generation, number, rest, -, habout⟩ := habout
    have hbegan := (isReached_goneOn 980 6).sound.began habout
    rw [hjournal, List.mem_singleton] at hbegan
    obtain rfl := began.inj hbegan
    rw [hrunning] at habout
    cases habout
  have hsteps : ∀ step ∈ Step.advance (draft [32] 1) 1 :: later, step.Leaves second 0 :=
    List.forall_mem_cons.2 ⟨shows_second, hlater⟩
  exact ⟨left, later, tree, hsaved, hfinished, hshown,
    published_after_saved (isReached_goneOn 980 6) shows_second rfl rfl hsaved hidle hsteps
      (by simp [hjournal]) hfinished⟩

/-- The first draft was read before the save. Its statistics are remembered afterwards, under the
signature that the second one has as well. -/
theorem not_published_after_saved :
    ¬ ∀ (depth : Nat) (scene : Overlap), scene.IsReached depth → ∀ (v : Version) (moment : Moment),
      moment.Shows v → ∀ path : Path, path.text = v.path →
        scene.desk.session.cacheEnabled = true → ∀ (result : Option Snapshot) (left : Desk),
          outcome (Session.handle (moment.host depth) .documentSaved (some path)) scene.desk =
            (.ok result, left) →
          ∀ later : List Step, (∀ step ∈ later, step.Leaves v scene.desk.session.cacheNumber) →
            ∀ generation snapshot, began generation ∉ scene.journal →
              finished generation (some snapshot) ∈
                (run depth { scene with desk := left } later).journal →
              v.ShownBy snapshot.tree := by
  intro h
  obtain ⟨result, left, hhandle⟩ := exists_outcome_handle 980
  obtain ⟨snapshot, cache, hsession⟩ := exists_cache_of_handle hhandle
  obtain ⟨next, hrunning⟩ := running_goneOn_seven 980
  obtain ⟨later, tree, hlater, hfinished, hshown⟩ := @exists_run_remembers
    { goneOn 980 7 with desk := left } 980 2 snapshot cache hsession (Script.stats ['@']) next hrunning
  have hjournal : (goneOn 980 7).journal = [began 1] := rfl
  have hstale := h 980 (goneOn 980 7) (isReached_goneOn 980 7) second (draft [32] 1) shows_second
    ⟨.root, ["w", "a.nani"]⟩ rfl rfl result left hhandle later hlater 3 _ (by simp [hjournal])
    hfinished _ hshown
  rw [fresh_second] at hstale
  exact absurd (congrArg Stats.scriptLines hstale) (by decide)

end Overlap

end ScriptStats
