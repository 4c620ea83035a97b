import ScriptStats.Proofs.Session.Refresh

/-!
# What a step of a refresh can do

Up to the end of its analysis a refresh only adds to the cache that it holds. Then it publishes its
snapshot or returns with nothing, and only after it has published it writes the cache at hand.
-/

namespace ScriptStats

open Program Moment

/-- All keys of the cache are in the other one. -/
def Cache.KeysIn (cache other : Cache) : Prop :=
  ∀ key ∈ cache.entries, key ∈ other.entries

theorem Cache.KeysIn.refl (cache : Cache) : cache.KeysIn cache :=
  fun _ hkey => hkey

theorem Cache.keysIn_store (cache : Cache) (key signature : String) (stats : FileStats)
    (time : String) : cache.KeysIn (cache.store key signature stats time) :=
  fun _ hkey => Std.ExtTreeMap.mem_insert.2 (.inr hkey)

namespace Desk

/-- The session is the given one, but for its cache. -/
def IsOf (session : Session) (desk : Desk) : Prop :=
  ∃ cache, desk.session = { session with cache }

/-- The snapshot stays, and so do all files on the disk and all keys in the caches. -/
structure Spares (before after : Desk) : Prop where
  snapshot_eq : after.session.snapshot = before.session.snapshot
  disk_eq : after.disk = before.disk
  keys : ∀ cache ∈ before.session.cache, ∃ later ∈ after.session.cache, cache.KeysIn later
  former : ∀ (number : Nat) (cache : Cache), before.session.former[number]? = some cache →
    ∃ later, after.session.former[number]? = some later ∧ cache.KeysIn later

/-- Only the caches have changed, and all they have done is to remember more. -/
structure Learns (before after : Desk) : Prop extends Spares before after where
  session_eq : ∃ cache former, after.session = { before.session with cache, former }

/-- Only the cache at hand has changed, and all it has done is to remember more. -/
structure Remembers (before after : Desk) : Prop extends Spares before after where
  isOf : after.IsOf before.session

theorem IsOf.refl (desk : Desk) : desk.IsOf desk.session :=
  ⟨desk.session.cache, rfl⟩

theorem IsOf.snapshot_eq {session : Session} {desk : Desk} (h : desk.IsOf session) :
    desk.session.snapshot = session.snapshot := by
  obtain ⟨cache, hsession⟩ := h
  rw [hsession]

theorem IsOf.generation_eq {session : Session} {desk : Desk} (h : desk.IsOf session) :
    desk.session.generation = session.generation := by
  obtain ⟨cache, hsession⟩ := h
  rw [hsession]

theorem Learns.generation_eq {before after : Desk} (h : before.Learns after) :
    after.session.generation = before.session.generation := by
  obtain ⟨cache, former, hsession⟩ := h.session_eq
  rw [hsession]

theorem Spares.refl (desk : Desk) : desk.Spares desk :=
  ⟨rfl, rfl, fun cache hcache => ⟨cache, hcache, .refl cache⟩,
    fun _ cache hcache => ⟨cache, hcache, .refl cache⟩⟩

theorem Learns.refl (desk : Desk) : desk.Learns desk :=
  ⟨.refl desk, desk.session.cache, desk.session.former, rfl⟩

theorem Remembers.refl (desk : Desk) : desk.Remembers desk :=
  ⟨.refl desk, .refl desk⟩

theorem Remembers.learns {before after : Desk} (h : before.Remembers after) : before.Learns after := by
  obtain ⟨cache, hsession⟩ := h.isOf
  exact ⟨h.toSpares, cache, before.session.former, hsession⟩

end Desk

namespace Session

variable {depth : Nat} {moment : Moment} {desk : Desk}

/-! ## Before the end of the analysis -/

theorem outcome_enter (moment : Moment) (depth : Nat) (desk : Desk) :
    outcome (enter (moment.host depth)) desk =
        (.ok (desk.session.generation + 1, desk.session.settings),
          { desk with session := desk.session.begin.2 }) ∨
      ∃ failure, outcome (enter (moment.host depth)) desk = (.error failure, desk) := by
  by_cases hdirectory : moment.isDirectory desk.session.root = .ok true
  · exact .inl (outcome_enter_of_isDirectory hdirectory)
  · exact .inr (exists_outcome_enter_of_not_isDirectory depth hdirectory)

theorem remembers_openCacheFor (moment : Moment) (depth : Nat) (settings : Settings) (desk : Desk) :
    desk.Remembers (outcome (openCacheFor (moment.host depth) settings) desk).2 := by
  cases hallows : desk.session.allowsCache settings with
  | false =>
    rw [outcome_openCacheFor_of_not_allowed hallows]
    exact .refl desk
  | true =>
    cases hcache : desk.session.cache with
    | some cache =>
      rw [outcome_openCacheFor_of_cache hallows hcache]
      exact .refl desk
    | none =>
      rw [outcome_openCacheFor_of_load hallows hcache]
      split
      · have hnone (cache : Cache) (hfound : cache ∈ desk.session.cache) : False := by
          rw [hcache] at hfound
          cases hfound
        exact ⟨⟨rfl, rfl, fun cache hfound => (hnone cache hfound).elim,
          (Desk.Spares.refl desk).former⟩, ⟨_, rfl⟩⟩
      · exact .refl desk

theorem remembers_openCache (moment : Moment) (depth : Nat) (desk : Desk) :
    desk.Remembers (outcome (openCache (moment.host depth)) desk).2 :=
  remembers_openCacheFor moment depth desk.session.settings desk

/-- What is left of a refresh when the cache is open. -/
theorem outcome_refresh_of_openCache {withCache : Bool} {opened : Desk}
    (hdirectory : moment.isDirectory desk.session.root = .ok true)
    (hopen : outcome (openCache (moment.host depth)) { desk with session := desk.session.begin.2 } =
      (.ok withCache, opened)) :
    outcome (refresh (moment.host depth)) desk = outcome (do
      let tree ← moment.atWork depth (buildTree desk.session.options withCache desk.session.root)
      conclude (moment.host depth) (desk.session.generation + 1) tree) opened := by
  have hremembers := remembers_openCache moment depth { desk with session := desk.session.begin.2 }
  rw [hopen] at hremembers
  obtain ⟨cache, hcache⟩ := hremembers.isOf
  have hcache : opened.session = { desk.session.begin.2 with cache } := hcache
  have hsettings : opened.session.settings = desk.session.settings := by rw [hcache]; rfl
  rw [outcome_refresh hdirectory hopen, ← hsettings, outcome_finishRefresh_eq, hcache]
  rfl

theorem remembers_remember (key signature : String) (stats : FileStats) (desk : Desk) :
    desk.Remembers (outcome (answer (moment.host depth) (.remember key signature stats)) desk).2 :=
  ⟨⟨rfl, rfl, fun cache hcache => ⟨_, Option.mem_map_of_mem _ hcache,
      cache.keysIn_store key signature stats moment.time⟩,
    (Desk.Spares.refl desk).former⟩, ⟨_, rfl⟩⟩

theorem remembers_answer (moment : Moment) (depth : Nat) (request : Request) (desk : Desk) :
    desk.Remembers (outcome (answer (moment.host depth) request) desk).2 := by
  cases request with
  | list path =>
    exact (Desk.outcome_possible (moment.list path) desk).symm ▸ .refl desk
  | read path =>
    exact (Desk.outcome_possible (moment.read path) desk).symm ▸ .refl desk
  | signature path =>
    exact (Desk.outcome_possible (moment.signature path) desk).symm ▸ .refl desk
  | identity path =>
    exact (Desk.outcome_required (moment.identity path) desk).symm ▸ .refl desk
  | directoryBound => exact .refl desk
  | lookUp key signature => exact .refl desk
  | remember key signature stats => exact remembers_remember key signature stats desk
  | note record => exact .refl desk

theorem exists_mapCacheAt_eq (f : Cache → Cache) (number : Nat) (session : Session) :
    ∃ cache former, session.mapCacheAt number f = { session with cache, former } := by
  unfold mapCacheAt
  split <;> exact ⟨_, _, rfl⟩

theorem learns_mapCacheAt {f : Cache → Cache} (hf : ∀ cache : Cache, cache.KeysIn (f cache))
    (number : Nat) (desk : Desk) :
    desk.Learns { desk with session := desk.session.mapCacheAt number f } := by
  have hrefl := Desk.Spares.refl desk
  obtain ⟨hand, former, hsession⟩ := exists_mapCacheAt_eq f number desk.session
  refine ⟨?_, hand, former, hsession⟩
  unfold mapCacheAt
  split
  · exact ⟨rfl, rfl, fun cache hcache => ⟨_, Option.mem_map_of_mem _ hcache, hf cache⟩, hrefl.former⟩
  · refine ⟨rfl, rfl, hrefl.keys, fun other cache hcache => ?_⟩
    have hlater : (desk.session.former.modify number f)[other]? =
        some (if number = other then f cache else cache) := by
      rw [List.getElem?_modify, hcache]
      rfl
    refine ⟨_, hlater, ?_⟩
    split
    · exact hf cache
    · exact .refl cache

theorem learns_answerFrom (moment : Moment) (depth number : Nat) (request : Request) (desk : Desk) :
    desk.Learns (outcome (answerFrom (moment.host depth) number request) desk).2 := by
  cases request with
  | lookUp key signature => exact .refl desk
  | remember key signature stats =>
    exact learns_mapCacheAt (fun cache => cache.keysIn_store key signature stats moment.time) number desk
  | list path => exact (remembers_answer moment depth (.list path) desk).learns
  | read path => exact (remembers_answer moment depth (.read path) desk).learns
  | signature path => exact (remembers_answer moment depth (.signature path) desk).learns
  | identity path => exact (remembers_answer moment depth (.identity path) desk).learns
  | directoryBound => exact .refl desk
  | note record => exact .refl desk

/-! ## The end of the analysis -/

variable {number : Nat}

theorem outcome_advance_done_of_eq {generation : Nat} (tree : Node)
    (h : generation = desk.session.generation) :
    outcome (advance (moment.host depth) generation (.analysing number (.done tree))) desk =
      (.ok (.goesOn (.storing ⟨generation, desk.session.root, tree⟩)),
        { desk with session := { desk.session with
          snapshot := some ⟨generation, desk.session.root, tree⟩ } }) := by
  rw [advance, outcome_bind_ok (Desk.outcome_get desk), publish, if_pos h]
  rfl

theorem outcome_advance_done_of_ne {generation : Nat} (tree : Node)
    (h : generation ≠ desk.session.generation) :
    outcome (advance (moment.host depth) generation (.analysing number (.done tree))) desk =
      (.ok (.returns none), desk) := by
  rw [advance, outcome_bind_ok (Desk.outcome_get desk), publish, if_neg h]
  rfl

/-! ## After publishing -/

/-- A failure to write down what a refresh has found. All else that the files refuse is no
failure of the refresh. -/
def IsStoringFailure : Failure → Prop
  | .files e => e.isRefusal = false
  | _ => False

section Storing

variable {session : Session}

/-- Only the cache of the session changes, and no failures occur but those that may. -/
def Stores {α : Type} (session : Session) (program : Desk.Act α) : Prop :=
  ∀ desk, desk.IsOf session → (outcome program desk).2.IsOf session ∧
    ∀ failure, (outcome program desk).1 = .error failure → IsStoringFailure failure

theorem Stores.bind {α β : Type} {program : Desk.Act α} {next : α → Desk.Act β}
    (h : Stores session program) (hnext : ∀ a, Stores session (next a)) :
    Stores session (program >>= next) := by
  intro desk hdesk
  have hmid := h desk hdesk
  rw [outcome_bind]
  generalize outcome program desk = ended at hmid ⊢
  obtain ⟨e | a, left⟩ := ended
  · exact ⟨hmid.1, fun failure hfailure => hmid.2 failure (by cases hfailure; rfl)⟩
  · exact hnext a left hmid.1

theorem stores_pure {α : Type} (a : α) : Stores session (pure a : Desk.Act α) :=
  fun _ hdesk => ⟨hdesk, fun _ hfailure => by cases hfailure⟩

theorem stores_throw (failure : Failure) (h : IsStoringFailure failure) {α : Type} :
    Stores session (throw failure : Desk.Act α) :=
  fun _ hdesk => ⟨hdesk, fun _ hfailure => by cases hfailure; exact h⟩

theorem stores_note (level : LogLevel) (message : String) :
    Stores session (note (moment.host depth) level message) :=
  stores_pure ()

theorem stores_getThe : Stores session (getThe Session : Desk.Act Session) :=
  fun _ hdesk => ⟨hdesk, fun _ hfailure => by cases hfailure⟩

theorem stores_mapCache (f : Cache → Cache) :
    Stores session (modifyThe Session (mapCache f) : Desk.Act PUnit) := by
  rintro desk ⟨cache, hsession⟩
  refine ⟨⟨cache.map f, ?_⟩, fun _ hfailure => by cases hfailure⟩
  change mapCache f desk.session = _
  rw [hsession]
  rfl

theorem stores_writeCache (path : Path) (text : RawText) :
    Stores session ((moment.host depth).writeCache path text) :=
  fun _ hdesk => ⟨hdesk, fun _ hfailure => by cases hfailure⟩

theorem stores_persistCache (tree : Node) :
    Stores session (persistCache (moment.host depth) tree) := by
  refine (stores_mapCache _).bind fun _ => stores_getThe.bind fun current => ?_
  split
  next => exact stores_pure _
  next path text _ =>
    refine (stores_writeCache path text).bind fun written => ?_
    cases written with
    | ok _ => exact stores_mapCache _
    | error e =>
      dsimp only
      split
      next => exact stores_note _ _
      next hrefusal => exact stores_throw (.files e) (Bool.eq_false_iff.2 hrefusal)

theorem stores_noteTotals (stats : AggregateStats) :
    Stores session (noteTotals (moment.host depth) stats) := by
  intro desk hdesk
  rw [outcome_noteTotals]
  exact ⟨hdesk, fun _ hfailure => by cases hfailure⟩

end Storing

/-! ## All that a step can do -/

/-- What the step of a refresh of the given number comes to, and the desks before and after it. -/
inductive Turned (generation : Nat) (before after : Desk) :
    RefreshPhase → Except Failure RefreshTurn → Prop where
  | analyses {phase : RefreshPhase} {number : Nat} {job : Job Node} :
      (∀ snapshot, phase ≠ .storing snapshot) → before.Learns after →
      Turned generation before after phase (.ok (.goesOn (.analysing number job)))
  | fails {phase : RefreshPhase} {failure : Failure} :
      (∀ snapshot, phase ≠ .storing snapshot) → before.Learns after →
      Turned generation before after phase (.error failure)
  | drops {number : Nat} {tree : Node} : generation ≠ before.session.generation → after = before →
      Turned generation before after (.analysing number (.done tree)) (.ok (.returns none))
  | publishes {number : Nat} {tree : Node} {snapshot : Snapshot} : generation = before.session.generation →
      snapshot = ⟨generation, before.session.root, tree⟩ →
      after = { before with session := { before.session with snapshot := some snapshot } } →
      Turned generation before after (.analysing number (.done tree)) (.ok (.goesOn (.storing snapshot)))
  | stores {snapshot : Snapshot} : after.IsOf before.session →
      Turned generation before after (.storing snapshot) (.ok (.returns (some snapshot)))
  | storingFails {snapshot : Snapshot} {failure : Failure} : after.IsOf before.session →
      IsStoringFailure failure →
      Turned generation before after (.storing snapshot) (.error failure)

theorem turned_advance (moment : Moment) (depth generation : Nat) (phase : RefreshPhase)
    (desk : Desk) :
    Turned generation desk (outcome (advance (moment.host depth) generation phase) desk).2 phase
      (outcome (advance (moment.host depth) generation phase) desk).1 := by
  cases phase with
  | opening settings =>
    have hremembers := remembers_openCacheFor moment depth settings desk
    rw [advance, outcome_bind]
    generalize outcome (openCacheFor (moment.host depth) settings) desk = ended at hremembers ⊢
    obtain ⟨e | withCache, left⟩ := ended
    · exact .fails (by simp) hremembers.learns
    · exact .analyses (by simp) hremembers.learns
  | analysing number job =>
    cases job with
    | ask request next =>
      have hlearns := learns_answerFrom moment depth number request desk
      rw [advance, outcome_bind]
      generalize outcome (answerFrom (moment.host depth) number request) desk = ended at hlearns ⊢
      obtain ⟨e | reply, left⟩ := ended
      · exact .fails (by simp) hlearns
      · exact .analyses (by simp) hlearns
    | done tree =>
      by_cases hnewest : generation = desk.session.generation
      · rw [outcome_advance_done_of_eq tree hnewest]
        exact .publishes hnewest rfl rfl
      · rw [outcome_advance_done_of_ne tree hnewest]
        exact .drops hnewest rfl
  | storing snapshot =>
    have hstores : Stores desk.session (do
        persistCache (moment.host depth) snapshot.tree
        noteTotals (moment.host depth) snapshot.stats) :=
      (stores_persistCache snapshot.tree).bind fun _ => stores_noteTotals snapshot.stats
    obtain ⟨hsession, hfailure⟩ := hstores desk (.refl desk)
    rw [advance, ← bind_assoc, outcome_bind]
    generalize outcome (_ >>= _) desk = ended at hsession hfailure ⊢
    obtain ⟨e | _, left⟩ := ended
    · exact .storingFails hsession (hfailure e rfl)
    · exact .stores hsession

end Session

end ScriptStats
