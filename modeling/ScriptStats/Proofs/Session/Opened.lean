import ScriptStats.Proofs.Session.Asked
import ScriptStats.Proofs.Session.CacheFile

/-!
# The cache before and after a refresh

A refresh begins with the cache at hand, or else with the one in the file, and it makes no difference
which of the two it is. It leaves what its analysis has left of the cache, without all that is not in
the tree.
-/

namespace ScriptStats

open Program

/-! ## What is left of the cache -/

namespace Cache

theorem get?_prune (cache : Cache) {kept : List String} {key : String} (h : key ∈ kept)
    (signature : String) : (cache.prune kept).get? key signature = cache.get? key signature := by
  refine get?_congr ?_ signature
  rw [getElem?_prune, if_pos (List.contains_iff_mem.2 (List.mem_map_of_mem h))]

theorem mem_of_mem_keys_prune {cache : Cache} {kept : List String} {key : RawText}
    (h : key ∈ (cache.prune kept).keys) : key ∈ kept.map RawText.ofString := by
  have hmem := Std.ExtTreeMap.mem_keys.1 h
  by_contra hgone
  rw [Std.ExtTreeMap.mem_iff_isSome_getElem?, getElem?_prune,
    if_neg fun hcontains => hgone (List.contains_iff_mem.1 hcontains)] at hmem
  cases hmem

end Cache

namespace Session

variable {moment : Moment} {depth : Nat} {desk : Desk} {cache before : Cache} {tree : Node}

/-- The session has a cache with these entries. -/
def HasEntries (entries : CacheEntries) (desk : Desk) : Prop :=
  ∃ cache, desk.session.cache = some cache ∧ cache.entries = entries

/-- After a refresh has published, only what it does with its cache changes anything. -/
theorem desk_store (moment : Moment) (depth : Nat) (snapshot : Snapshot) (desk : Desk) :
    (outcome (store moment depth snapshot) desk).2 =
      (outcome (persistCache (moment.host depth) snapshot.tree) desk).2 := by
  rw [store, outcome_bind]
  generalize outcome (persistCache (moment.host depth) snapshot.tree) desk = ended
  obtain ⟨e | _, left⟩ := ended
  · rfl
  · dsimp only
    rw [outcome_bind_ok (outcome_noteTotals moment depth snapshot.stats left)]
    rfl

theorem hasEntries_persistCache (hcache : desk.session.cache = some cache) (tree : Node) :
    HasEntries (cache.prune tree.scriptPaths).entries
      (outcome (persistCache (moment.host depth) tree) desk).2 := by
  rw [persistCache, outcome_bind_ok (outcome_mapCache _ hcache)]
  refine keeps_getThe_bind (fun desk hdesk => ?_) _ ⟨_, rfl, rfl⟩
  split
  next => exact hdesk
  next path text _ =>
    have hwrite : Keeps (HasEntries (cache.prune tree.scriptPaths).entries)
        ((moment.host depth).writeCache path text) := fun _ h => h
    refine hwrite.bind (fun written => ?_) desk hdesk
    split
    · rintro desk ⟨cache, hcache, hentries⟩
      exact ⟨cache.written, congrArg (Option.map Cache.written) hcache, hentries⟩
    · split
      · exact fun _ h => h
      · exact keeps_throw _

end Session

/-! ## The cache with which a refresh begins -/

/-- The cache with which a refresh begins: the one at hand, or else the one in the file. -/
def Desk.opened? (desk : Desk) (depth : Nat) : Option Cache :=
  desk.session.cache.or (Cache.load depth desk.session.settings.cachePath
    (desk.disk.read desk.session.settings.cachePath)).toOption

namespace Session

variable {moment : Moment} {depth : Nat} {desk : Desk} {before : Cache} {tree shown : Node}

/-- The sessions analyse the same workspace with the same configuration. -/
structure ConfiguredLike (session other : Session) : Prop where
  root_eq : session.root = other.root
  settings_eq : session.settings = other.settings
  extraExcludes_eq : session.extraExcludes = other.extraExcludes
  useCache_eq : session.useCache = other.useCache

theorem ConfiguredLike.options_eq {session other : Session} (h : session.ConfiguredLike other) :
    session.options = other.options := by
  rw [options, options, optionsUnder, optionsUnder, excludedDirs, excludedDirs, h.settings_eq,
    h.extraExcludes_eq]

theorem ConfiguredLike.cacheEnabled_eq {session other : Session}
    (h : session.ConfiguredLike other) : session.cacheEnabled = other.cacheEnabled := by
  rw [cacheEnabled, cacheEnabled, allowsCache, allowsCache, h.settings_eq, h.useCache_eq]

theorem Publishes.configuredLike {session : Session}
    {ended : Except Failure (Option Snapshot) × Desk} (h : Publishes session tree ended) :
    ended.2.session.ConfiguredLike session := by
  obtain ⟨cache, hsession⟩ := h.isOf
  rw [hsession]
  exact ⟨rfl, rfl, rfl, rfl⟩

/-- The session has begun its next refresh, with that cache at hand. -/
def begunWith (desk : Desk) (cache : Cache) : Desk :=
  Desk.withCache { desk with session := desk.session.begin.2 } (some cache)

/-- The session has published the tree, with that cache at hand. -/
def endedWith (desk : Desk) (tree : Node) (cache : Option Cache) : Desk :=
  Desk.withCache { desk with
    session := { desk.session.begin.2 with snapshot := some (desk.session.next tree) } } cache

/-- What a refresh asks of the files and of its cache while it analyses the workspace. -/
def refreshAsked (moment : Moment) (depth : Nat) (desk : Desk) : List Request :=
  match outcome (openCache (moment.host depth)) { desk with session := desk.session.begin.2 } with
  | (.ok withCache, opened) =>
    moment.asked depth (buildTree opened.session.options withCache opened.session.root) opened
  | (.error _, _) => []

section Opened

variable (henabled : desk.session.cacheEnabled = true) (hopened : desk.opened? depth = some before)
include henabled hopened

theorem outcome_openCache_of_opened? :
    outcome (openCache (moment.host depth)) desk = (.ok true, desk.withCache (some before)) := by
  unfold Desk.opened? at hopened
  cases hcache : desk.session.cache with
  | some cache =>
    rw [hcache] at hopened
    obtain rfl : cache = before := Option.some_inj.1 hopened
    rw [outcome_openCache_of_cache henabled hcache, ← hcache]
    rfl
  | none =>
    rw [hcache, Option.none_or] at hopened
    rw [outcome_openCache_of_load henabled hcache]
    cases hload : Cache.load depth desk.session.settings.cachePath
        (desk.disk.read desk.session.settings.cachePath) with
    | error failure =>
      rw [hload] at hopened
      cases hopened
    | ok cache =>
      rw [hload] at hopened
      cases hopened
      rfl

theorem outcome_openCache_begin :
    outcome (openCache (moment.host depth)) { desk with session := desk.session.begin.2 } =
      (.ok true, begunWith desk before) :=
  @outcome_openCache_of_opened? moment depth { desk with session := desk.session.begin.2 } before
    henabled hopened

theorem refreshAsked_eq : refreshAsked moment depth desk =
    moment.asked depth (buildTree desk.session.options true desk.session.root)
      (begunWith desk before) := by
  rw [refreshAsked, outcome_openCache_begin henabled hopened]
  rfl

/-- It makes no difference whether the cache is at hand or has to be loaded. -/
theorem outcome_refresh_withCache (hdirectory : moment.isDirectory desk.session.root = .ok true) :
    outcome (refresh (moment.host depth)) desk =
      outcome (refresh (moment.host depth)) (desk.withCache (some before)) := by
  rw [outcome_refresh hdirectory (outcome_openCache_begin henabled hopened)]
  exact (@outcome_refresh depth moment (desk.withCache (some before)) _ hdirectory true
    (outcome_openCache_of_cache henabled rfl)).symm

end Opened

theorem exists_failure_of_opened? (henabled : desk.session.cacheEnabled = true)
    (h : desk.opened? depth = none) :
    ∃ failure, outcome (openCache (moment.host depth)) desk = (.error (.cache failure), desk) := by
  obtain ⟨hnone, hload⟩ := Option.or_eq_none_iff.1 h
  cases hfailure : Cache.load depth desk.session.settings.cachePath
      (desk.disk.read desk.session.settings.cachePath) with
  | ok cache =>
    rw [hfailure] at hload
    cases hload
  | error failure =>
    refine ⟨failure, ?_⟩
    rw [outcome_openCache_of_load henabled hnone, hfailure]

theorem exists_opened?_of_publishes (henabled : desk.session.cacheEnabled = true)
    (h : Publishes desk.session tree (outcome (refresh (moment.host depth)) desk)) :
    moment.isDirectory desk.session.root = .ok true ∧ ∃ before, desk.opened? depth = some before := by
  by_cases hdirectory : moment.isDirectory desk.session.root = .ok true
  · refine ⟨hdirectory, ?_⟩
    cases hopened : desk.opened? depth with
    | some before => exact ⟨before, rfl⟩
    | none =>
      obtain ⟨failure, hopen⟩ := @exists_failure_of_opened? moment depth
        { desk with session := desk.session.begin.2 } henabled hopened
      have hresult := h.result
      rw [outcome_refresh_of_error hdirectory hopen] at hresult
      rcases hresult with hresult | ⟨failure, hresult, hstoring⟩
      · cases hresult
      · cases hresult
        exact hstoring.elim
  · obtain ⟨e, hrefresh⟩ := outcome_refresh_of_not_isDirectory depth hdirectory
    have hgeneration := h.isOf.generation_eq
    rw [hrefresh] at hgeneration
    exact absurd hgeneration (Nat.ne_of_lt (Nat.lt_succ_self _))

theorem analysed_begunWith (hbyText : moment.ByText) {mid : Desk}
    (h : outcome (moment.atWork depth (buildTree desk.session.options true desk.session.root))
      (begunWith desk before) = (.ok tree, mid)) :
    moment.Analysed desk.session.options desk.session.root (some before) tree mid := by
  have hbuilds := Moment.buildsTogether_buildTree h
  exact @Moment.BuildsTogether.analysed moment depth hbyText _ _ (begunWith desk before) mid tree hbuilds

/-- Where a refresh publishes a tree, its analysis has come to it, and then the refresh has seen to its
cache. -/
theorem exists_atWork_of_publishes (hpossible : moment.Possible)
    (henabled : desk.session.cacheEnabled = true) (hopened : desk.opened? depth = some before)
    (h : Publishes desk.session tree (outcome (refresh (moment.host depth)) desk)) :
    ∃ mid, outcome (moment.atWork depth (buildTree desk.session.options true desk.session.root))
        (begunWith desk before) = (.ok tree, mid) ∧
      (outcome (refresh (moment.host depth)) desk).2 =
        (outcome (persistCache (moment.host depth) tree)
          (endedWith desk tree mid.session.cache)).2 := by
  obtain ⟨hdirectory, -⟩ := exists_opened?_of_publishes henabled h
  obtain ⟨found, mid, hfound⟩ := hpossible.exists_atWork depth
    (buildTree desk.session.options true desk.session.root) (begunWith desk before)
  have hsame := @outcome_refresh_withCache moment depth desk before henabled hopened hdirectory
  have hrefresh := @outcome_refresh_of_tree moment depth (desk.withCache (some before)) mid before
    hdirectory henabled rfl found hfound
  have hpublishes := @publishes_refresh moment depth (desk.withCache (some before)) mid before
    hdirectory henabled rfl found hfound
  obtain rfl : found = tree := by
    have hnext := h.snapshot_eq
    rw [hsame, hpublishes.snapshot_eq] at hnext
    exact congrArg Snapshot.tree (Option.some_inj.1 hnext)
  refine ⟨mid, hfound, ?_⟩
  rw [hsame, hrefresh, desk_store]
  rfl

end Session

end ScriptStats
