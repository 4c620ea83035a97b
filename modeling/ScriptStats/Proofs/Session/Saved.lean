import ScriptStats.Files.Memory
import ScriptStats.Proofs.Session.AtWork
import ScriptStats.Proofs.Session.History

/-!
# Saved documents

When a document was saved, the cache forgets what it knows under the text of the path that the host
gives, and a refresh follows. All scripts with that text are read anew. The others are shown as the
cache knows them, and so is the document itself if the workspace spells its path in another way.
-/

namespace ScriptStats

open Program Moment

namespace Moment

/-- The script with that path as it is at the moment. -/
def version (moment : Moment) (path : Path) : Version :=
  ⟨path.text, moment.signature path, moment.read path⟩

/-- The statistics of a script as it is; one that cannot be read counts as empty. -/
def freshStats (moment : Moment) (script : Path) : FileStats :=
  (moment.stats? script).getD {}

/-- The statistics that the cache knows under the signature of a script, or else those that it has. -/
def knownStats (moment : Moment) (cache : Cache) (script : Path) : FileStats :=
  ((moment.signature script).toOption.bind fun signature =>
    cache.get? script.text signature.text).getD (moment.freshStats script)

variable {moment : Moment}

theorem shows_version (h : moment.ByText) (path : Path) : moment.Shows (moment.version path) :=
  ⟨fun p hp => (h p path hp).1, fun p hp => (h p path hp).2⟩

end Moment

namespace Session

variable {moment : Moment} {depth : Nat} {desk opened left : Desk} {cache : Cache}

/-! ## A refresh with the cache at hand -/

/-- What a session publishes if its next refresh comes to the tree. -/
def next (session : Session) (tree : Node) : Snapshot :=
  ⟨session.generation + 1, session.root, tree⟩

/-- How a refresh ends that comes to the tree: it publishes, and at most it fails to write down what it
has found. -/
structure Publishes (session : Session) (tree : Node)
    (ended : Except Failure (Option Snapshot) × Desk) : Prop where
  isOf : ended.2.IsOf { session with
    generation := session.generation + 1, snapshot := some (session.next tree) }
  result : ended.1 = .ok (some (session.next tree)) ∨
    ∃ failure, ended.1 = .error failure ∧ IsStoringFailure failure

theorem Publishes.snapshot_eq {session : Session} {tree : Node}
    {ended : Except Failure (Option Snapshot) × Desk} (h : Publishes session tree ended) :
    ended.2.session.snapshot = some (session.next tree) :=
  h.isOf.snapshot_eq

/-- What a refresh does after it has published. -/
def store (moment : Moment) (depth : Nat) (snapshot : Snapshot) : Desk.Act (Option Snapshot) := do
  persistCache (moment.host depth) snapshot.tree
  noteTotals (moment.host depth) snapshot.stats
  return some snapshot

theorem publishes_store {session : Session} {tree : Node} (h : desk.IsOf { session with
    generation := session.generation + 1, snapshot := some (session.next tree) }) :
    Publishes session tree (outcome (store moment depth (session.next tree)) desk) := by
  have hstores : Stores { session with
      generation := session.generation + 1, snapshot := some (session.next tree) } (do
        persistCache (moment.host depth) (session.next tree).tree
        noteTotals (moment.host depth) (session.next tree).stats) :=
    (stores_persistCache tree).bind fun _ => stores_noteTotals _
  obtain ⟨hsession, hfailure⟩ := hstores desk h
  rw [store, ← bind_assoc, outcome_bind]
  generalize outcome (_ >>= _) desk = ended at hsession hfailure ⊢
  obtain ⟨e | _, left⟩ := ended
  · exact ⟨hsession, .inr ⟨e, rfl, hfailure e rfl⟩⟩
  · exact ⟨hsession, .inl rfl⟩

section Refresh

variable (hdirectory : moment.isDirectory desk.session.root = .ok true)
  (henabled : desk.session.cacheEnabled = true) (hcache : desk.session.cache = some cache)
  {tree : Node} (htree : outcome (moment.atWork depth (buildTree desk.session.options true
    desk.session.root)) { desk with session := desk.session.begin.2 } = (.ok tree, left))
include hdirectory henabled hcache htree

theorem outcome_refresh_of_tree :
    outcome (refresh (moment.host depth)) desk =
      outcome (store moment depth (desk.session.next tree)) (Desk.withCache { desk with
        session := { desk.session.begin.2 with snapshot := some (desk.session.next tree) } }
          left.session.cache) := by
  have hopen : outcome (openCache (moment.host depth)) { desk with session := desk.session.begin.2 } =
      (.ok true, { desk with session := desk.session.begin.2 }) :=
    outcome_openCache_of_cache henabled hcache
  have hremembers := remembers_atWork moment depth (buildTree desk.session.options true
    desk.session.root) { desk with session := desk.session.begin.2 }
  rw [htree] at hremembers
  obtain ⟨after, rfl⟩ := hremembers.exists_eq_withCache
  rw [outcome_refresh hdirectory hopen]
  exact @outcome_finishRefresh depth moment { desk with session := desk.session.begin.2 } true tree
    after htree

theorem publishes_refresh :
    Publishes desk.session tree (outcome (refresh (moment.host depth)) desk) := by
  rw [outcome_refresh_of_tree hdirectory henabled hcache htree]
  exact publishes_store ⟨left.session.cache, rfl⟩

end Refresh

/-! ## After a document was saved -/

theorem cacheEnabled_of_openCache
    (hopen : outcome (openCache (moment.host depth)) desk = (.ok true, opened)) :
    desk.session.cacheEnabled = true := by
  cases henabled : desk.session.cacheEnabled with
  | true => rfl
  | false =>
    rw [outcome_openCache_of_not_enabled henabled] at hopen
    cases hopen

section Saved

variable (hopen : outcome (openCache (moment.host depth)) desk = (.ok true, opened))
  (hcache : opened.session.cache = some cache)
include hopen hcache

theorem outcome_prepare_saved (path : Path) :
    outcome (prepare (moment.host depth) .documentSaved (some path)) desk =
      (.ok (), desk.withCache (some (cache.invalidate path.text))) := by
  have hremembers := remembers_openCache moment depth desk
  rw [hopen] at hremembers
  obtain ⟨found, rfl⟩ := hremembers.exists_eq_withCache
  obtain rfl : found = some cache := hcache
  exact outcome_bind_ok hopen _

/-- The session forgets the document and publishes what its analysis comes to then. -/
theorem publishes_handle_saved (hdirectory : moment.isDirectory desk.session.root = .ok true)
    (path : Path) {tree : Node} (htree : outcome (moment.atWork depth (buildTree desk.session.options
      true desk.session.root)) (Desk.withCache { desk with session := desk.session.begin.2 }
        (some (cache.invalidate path.text))) = (.ok tree, left)) :
    Publishes desk.session tree
      (outcome (handle (moment.host depth) .documentSaved (some path)) desk) := by
  have henabled : desk.session.cacheEnabled = true := cacheEnabled_of_openCache hopen
  have hrefresh := @publishes_refresh moment depth
    (desk.withCache (some (cache.invalidate path.text))) left _ hdirectory henabled rfl tree htree
  rw [outcome_handle (outcome_prepare_saved hopen hcache path)]
  exact ⟨hrefresh.isOf, hrefresh.result⟩

end Saved

/-- The cache that has forgotten a document lets it be shown as it is, and tells the same of all other
scripts. -/
theorem knows_invalidate (moment : Moment) (desk : Desk) (cache : Cache) (path script : Path) :
    (desk.withCache (some (cache.invalidate path.text))).Knows (moment.version script)
      (if script.text = path.text then moment.freshStats script
        else moment.knownStats cache script) := by
  rintro text ⟨signature, hsignature, rfl⟩
  change (moment.version script).Tells _ ((cache.invalidate path.text).get? script.text signature.text)
  split
  next htext =>
    rw [htext, Cache.get?_invalidate]
    exact ⟨fun _ hknown => (by cases hknown), fun _ => rfl⟩
  next htext =>
    have hknown : moment.knownStats cache script =
        (cache.get? script.text signature.text).getD (moment.freshStats script) := by
      change moment.signature script = .ok signature at hsignature
      rw [knownStats, hsignature]
      rfl
    rw [Cache.get?_invalidate_of_ne _ htext, hknown]
    cases cache.get? script.text signature.text with
    | none => exact ⟨fun _ hknown => (by cases hknown), fun _ => rfl⟩
    | some known => exact ⟨fun _ hknown => Option.some_inj.1 hknown.symm, fun hnone => by cases hnone⟩

/-- After a document was saved, a snapshot is published in which all scripts are shown as they are that
are spelt like the document, and all others as the cache knows them. -/
theorem handle_saved_shows (hpossible : moment.Possible) (hbyText : moment.ByText)
    (hdirectory : moment.isDirectory desk.session.root = .ok true)
    (hopen : outcome (openCache (moment.host depth)) desk = (.ok true, opened))
    (hcache : opened.session.cache = some cache) (path : Path) :
    ∃ tree, Publishes desk.session tree
        (outcome (handle (moment.host depth) .documentSaved (some path)) desk) ∧
      ∀ (script : Path) (stats : Stats), tree.Shows script.text stats →
        stats = .file (if script.text = path.text then moment.freshStats script
          else moment.knownStats cache script) := by
  obtain ⟨tree, left, htree⟩ := hpossible.exists_atWork depth (buildTree desk.session.options true
    desk.session.root) (Desk.withCache { desk with session := desk.session.begin.2 }
      (some (cache.invalidate path.text)))
  refine ⟨tree, publishes_handle_saved hopen hcache hdirectory path htree, ?_⟩
  intro script stats hshown
  have hknows := knows_invalidate moment { desk with session := desk.session.begin.2 } cache path script
  have hunsigned : (moment.version script).signature.toOption = none →
      (if script.text = path.text then moment.freshStats script
        else moment.knownStats cache script) = (moment.version script).fresh := by
    intro hnone
    change (moment.signature script).toOption = none at hnone
    split
    · rfl
    · rw [knownStats, hnone]
      rfl
  have hmeets := @Job.meets_version_buildTree (moment.version script) _ hunsigned true
    (fun h => by cases h) desk.session.options desk.session.root
  have htold := (hknows.atWork depth (shows_version hbyText script) hmeets).2 tree (by rw [htree])
  obtain ⟨found, rfl, hfound⟩ := htold script.text stats hshown
  rw [hfound rfl]

/-- The script is written without a new signature, and shown as it is once it was saved. -/
theorem handle_saved_shows_draft :
    (World.draft [32] 1).Possible ∧ (World.draft [32] 1).ByText ∧
      outcome (openCache ((World.draft [32] 1).host 980))
        ⟨{ World.writer with cache := some World.known }, {}⟩ =
          (.ok true, ⟨{ World.writer with cache := some World.known }, {}⟩) ∧
      ∃ tree, Publishes { World.writer with cache := some World.known } tree
          (outcome (handle ((World.draft [32] 1).host 980) .documentSaved
            (some ⟨.root, ["w", "a.nani"]⟩)) ⟨{ World.writer with cache := some World.known }, {}⟩) ∧
        ∀ stats, tree.Shows "/w/a.nani" stats → stats = .file (Script.stats [' ']) := by
  have hpossible : (World.draft [32] 1).Possible :=
    ⟨(fun _ _ h => by cases h), (fun _ _ h => by cases h), (fun _ _ h => by cases h),
      fun _ => ⟨_, rfl⟩⟩
  have hopen := @outcome_openCache_of_cache 980 (World.draft [32] 1)
    ⟨{ World.writer with cache := some World.known }, {}⟩ rfl World.known rfl
  obtain ⟨tree, hpublishes, hshown⟩ := handle_saved_shows hpossible (World.byText_draft [32] 1) rfl
    hopen rfl ⟨.root, ["w", "a.nani"]⟩
  refine ⟨hpossible, World.byText_draft [32] 1, hopen, tree, hpublishes, fun stats hstats => ?_⟩
  exact hshown ⟨.root, ["w", "a.nani"]⟩ stats hstats

end Session

/-! ## Another spelling -/

/-- A world of files in memory. -/
def Moment.ofFiles (files : MemoryFiles) : Moment where
  isDirectory path := .ok (files.isDirectory path)
  list := files.list
  read := files.read
  signature := files.signature
  identity path := .ok (files.identity path)
  directoryBound := files.directoryCount
  settings root := .ok { root, cache := { enabled := true, path := some ⟨.root, ["c"]⟩ } }
  time := ""

namespace World

/-- A workspace `/w` with one script of these bytes, to which `/v` leads as well. -/
def linked (bytes : Bytes) : MemoryFiles where
  directories := [("/", ["w", "v"]), ("/w", ["a.nani"])]
  contents := [("/w/a.nani", bytes)]
  aliases := [("/v", ⟨.root, ["w"]⟩)]
  versions := [("/w/a.nani", 1)]

/-- The script is written, and its signature stays the same. -/
def rewritten : List Step :=
  [.start ⟨.root, ["w"]⟩ [] none,
   .call 0 (.document (some ⟨.root, ["w", "a.nani"]⟩) none),
   .edit (.ofFiles (linked [32]))]

theorem real_linked (bytes : Bytes) :
    (linked bytes).real ⟨.root, ["v", "a.nani"]⟩ = (linked bytes).real ⟨.root, ["w", "a.nani"]⟩ :=
  rfl

theorem signature_linked (bytes : Bytes) :
    (Moment.ofFiles (linked bytes)).signature ⟨.root, ["w", "a.nani"]⟩ = .ok ⟨bytes.length, 1⟩ :=
  rfl

theorem eval_walk_linked (bytes : Bytes) :
    (Moment.ofFiles (linked bytes)).eval (walk writer.options ⟨.root, ["w"]⟩) = .ok [draftListing] :=
  eval_walk_of_list rfl rfl rfl rfl

theorem run_rewritten (depth : Nat) :
    run depth ⟨.ofFiles (linked [64]), [], {}, []⟩ rewritten =
      ⟨.ofFiles (linked [32]), [.ofFiles (linked [64])], {},
        [{ writer with cache := some known }]⟩ := by
  have hstart : step depth ⟨.ofFiles (linked [64]), [], {}, []⟩ (.start ⟨.root, ["w"]⟩ [] none) =
      ⟨.ofFiles (linked [64]), [], {}, [writer]⟩ := rfl
  have hdocument : (World.mk (.ofFiles (linked [64])) [] {} [writer]).perform depth writer
      (.document (some ⟨.root, ["w", "a.nani"]⟩) none) =
        ⟨{ writer with cache := some known }, {}⟩ := by
    have hopen := outcome_openCache_writer (.ofFiles (linked [64])) depth 0 read_cache_of_empty rfl
    have hdocument : outcome (Session.document ((Moment.ofFiles (linked [64])).host depth)
        (some ⟨.root, ["w", "a.nani"]⟩) none) ⟨writer, {}⟩ = _ := outcome_bind_ok hopen _
    rw [World.perform, Call.leave, hdocument]
    rfl
  have hcall : step depth ⟨.ofFiles (linked [64]), [], {}, [writer]⟩
      (.call 0 (.document (some ⟨.root, ["w", "a.nani"]⟩) none)) =
        ⟨.ofFiles (linked [64]), [], {}, [{ writer with cache := some known }]⟩ := by
    change World.mk _ _ (World.perform _ _ _ _).disk [(World.perform _ _ _ _).session] = _
    rw [hdocument]
  rw [run, rewritten, List.foldl_cons, hstart, List.foldl_cons, hcall]
  rfl

/-- What is published after the script was saved under the other path. -/
theorem publishes_handle_linked (depth : Nat) :
    Session.Publishes { writer with cache := some known } (draftTree ['@'])
      (outcome (Session.handle ((Moment.ofFiles (linked [32])).host depth) .documentSaved
        (some ⟨.root, ["v", "a.nani"]⟩)) ⟨{ writer with cache := some known }, {}⟩) := by
  have hopen := @Session.outcome_openCache_of_cache depth (.ofFiles (linked [32]))
    ⟨{ writer with cache := some known }, {}⟩ rfl known rfl
  have hget : (known.invalidate "/v/a.nani").get? "/w/a.nani" "1:1" = some (Script.stats ['@']) := by
    rw [Cache.get?_invalidate_of_ne known (by decide)]
    exact Cache.get?_store ..
  have hstats := @outcome_cachedStats_of_get? (.ofFiles (linked [32])) depth
    ⟨{ writer with generation := 1, cache := some (known.invalidate "/v/a.nani") }, {}⟩
    ⟨.root, ["w", "a.nani"]⟩ ⟨1, 1⟩ (signature_linked [32]) _ rfl _ hget
  exact Session.publishes_handle_saved hopen rfl rfl ⟨.root, ["v", "a.nani"]⟩
    (outcome_buildTree_of_walk (eval_walk_linked [32]) rfl hstats)

/-- A path that leads to the script, but is not spelt like it, leaves the old statistics where they
are. -/
theorem not_handle_saved_respelt :
    ¬ ∀ (depth : Nat) (first : MemoryFiles) (disk : Disk), disk.KeepsNothing depth →
      ∀ (steps : List Step) (files : MemoryFiles),
        (run depth ⟨.ofFiles first, [], disk, []⟩ steps).moment = .ofFiles files →
          ∀ session ∈ (run depth ⟨.ofFiles first, [], disk, []⟩ steps).sessions,
            session.cacheEnabled = true → ∀ path script : Path,
              files.real path = files.real script → ∀ snapshot,
                session.published? ((run depth ⟨.ofFiles first, [], disk, []⟩ steps).perform depth
                  session (.handle .documentSaved (some path))).session = some snapshot →
                ∀ stats, snapshot.tree.Shows script.text stats →
                  stats = .file ((Moment.ofFiles files).freshStats script) := by
  intro h
  have hempty : Disk.KeepsNothing 980 {} := fun _ _ _ hmem => by cases hmem
  have hsession : { writer with cache := some known } ∈
      (run 980 ⟨.ofFiles (linked [64]), [], {}, []⟩ rewritten).sessions := by
    rw [run_rewritten]
    exact List.mem_singleton_self _
  have hpublished : Session.published? { writer with cache := some known }
      ((run 980 ⟨.ofFiles (linked [64]), [], {}, []⟩ rewritten).perform 980
        { writer with cache := some known }
        (.handle .documentSaved (some ⟨.root, ["v", "a.nani"]⟩))).session =
      some ⟨1, ⟨.root, ["w"]⟩, draftTree ['@']⟩ := by
    rw [run_rewritten, perform, Call.leave, Session.published?,
      (publishes_handle_linked 980).snapshot_eq]
    rfl
  have hshown : (draftTree ['@']).Shows "/w/a.nani" (.file (Script.stats ['@'])) :=
    .within List.mem_cons_self (.itself (by decide))
  have hstale := h 980 (linked [64]) {} hempty rewritten (linked [32])
    (by rw [run_rewritten]) _ hsession rfl ⟨.root, ["v", "a.nani"]⟩ ⟨.root, ["w", "a.nani"]⟩
    (real_linked [32]) _ hpublished _ hshown
  have hfresh : (Moment.ofFiles (linked [32])).freshStats ⟨.root, ["w", "a.nani"]⟩ =
      Script.stats [' '] := rfl
  rw [hfresh] at hstale
  exact absurd (congrArg Stats.scriptLines hstale) (by decide)

end World

end ScriptStats
