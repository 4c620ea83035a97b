import ScriptStats.Proofs.Cache.Kept
import ScriptStats.Proofs.Cache.Loading
import ScriptStats.Proofs.Session.Turn

/-!
# The cache files of sessions

A refresh with a cache that is not loaded yet, and so the analysis of a document, fails for want of
the cache just if the file of the cache cannot be loaded. After a refresh the file is written as by
a cache of its own. What cannot be written are halves of pairs, which a file can spell out.
-/

namespace ScriptStats

open Program

/-- It is the cache of that file, with each name once in all that its entries hold. -/
def Cache.TidyAt (path : Path) (cache : Cache) : Prop :=
  cache.path = some path ∧ Tidy cache.entries

namespace Session

variable {moment : Moment} {depth : Nat} {desk : Desk}

theorem outcome_writeCache (moment : Moment) (depth : Nat) (path : Path) (text : RawText)
    (desk : Desk) : outcome ((moment.host depth).writeCache path text) desk =
      (.ok (outcome (Disk.writeText path text) desk.disk).1,
        { desk with disk := (outcome (Disk.writeText path text) desk.disk).2 }) :=
  rfl

theorem outcome_mapCache (f : Cache → Cache) {cache : Cache} (hcache : desk.session.cache = some cache) :
    outcome (modifyThe Session (mapCache f) : Desk.Act PUnit) desk =
      (.ok ⟨⟩, desk.withCache (some (f cache))) := by
  change (Except.ok PUnit.unit, Desk.withCache desk (desk.session.cache.map f)) = _
  rw [hcache, Option.map_some]

/-- What a session does with its cache after a refresh is to forget what is gone and to write the
file. -/
theorem outcome_persistCache {cache : Cache} (hcache : desk.session.cache = some cache)
    (tree : Node) (hwritable :
      (Cache.document (cache.prune tree.scriptPaths).entries).hasWritableNumbers = true) :
    (outcome (persistCache (moment.host depth) tree) desk).2 =
      let kept := (KeptCache.mk (cache.prune tree.scriptPaths) desk.disk).persist false
      ⟨{ desk.session with cache := some kept.cache }, kept.disk⟩ := by
  rw [persistCache, outcome_bind_ok (outcome_mapCache _ hcache), outcome_bind_ok (Desk.outcome_get _)]
  unfold KeptCache.persist
  simp only [Desk.withCache, Option.bind_some, hwritable, Bool.not_true, Bool.or_false]
  cases hdue : (cache.prune tree.scriptPaths).due? with
  | none => rfl
  | some due =>
    obtain ⟨path, text⟩ := due
    simp only [Bool.false_eq_true, if_false]
    rw [outcome_bind_ok (outcome_writeCache moment depth path text _)]
    dsimp only
    generalize outcome (Disk.writeText path text) desk.disk = written
    obtain ⟨_ | _, disk⟩ := written
    · dsimp only
      split <;> rfl
    · rfl

/-! ## Failures to load -/

/-- The program does not fail for want of a cache. -/
def Spares {α : Type} (program : Desk.Act α) : Prop :=
  ∀ desk failure, (outcome program desk).1 ≠ .error (.cache failure)

section Spares

variable {α β : Type}

theorem spares_pure (a : α) : Spares (pure a : Desk.Act α) :=
  fun _ _ h => by cases h

theorem spares_throw {e : Failure} (h : ∀ failure, e ≠ .cache failure) :
    Spares (throw e : Desk.Act α) :=
  fun _ failure hfailure => h failure (Except.error.inj hfailure)

theorem Spares.bind {program : Desk.Act α} {next : α → Desk.Act β} (h : Spares program)
    (hnext : ∀ a, Spares (next a)) : Spares (program >>= next) := by
  intro desk failure
  have hmid := h desk failure
  rw [outcome_bind]
  generalize outcome program desk = ended at hmid ⊢
  obtain ⟨e | a, left⟩ := ended
  · exact fun hfailure => hmid (by cases hfailure; rfl)
  · exact hnext a left failure

theorem spares_possible (found : Except FileError α) :
    Spares (possible found : Desk.Act (Except FileError α)) := by
  cases found with
  | ok a => exact spares_pure _
  | error e =>
    unfold possible
    dsimp only
    split
    · exact spares_pure _
    · exact spares_throw (by simp)

theorem spares_required (found : Except FileError α) : Spares (required found : Desk.Act α) := by
  cases found with
  | ok a => exact spares_pure a
  | error e => exact spares_throw (by simp)

theorem spares_answerFrom (number : Nat) (request : Request) :
    Spares (answerFrom (moment.host depth) number request) := by
  cases request with
  | list path => exact spares_possible (moment.list path)
  | read path => exact spares_possible (moment.read path)
  | signature path => exact spares_possible (moment.signature path)
  | identity path => exact spares_required (moment.identity path)
  | directoryBound => exact spares_pure _
  | lookUp key signature => exact fun _ _ h => by cases h
  | remember key signature stats => exact fun _ _ h => by cases h
  | note record => exact spares_pure _

theorem spares_run (number : Nat) (job : Job α) :
    Spares (job.run (answerFrom (moment.host depth) number)) := by
  induction job with
  | done a => exact spares_pure a
  | ask request next ih => exact (spares_answerFrom number request).bind ih

theorem Stores.spares {program : Desk.Act α} (h : ∀ session, Stores session program) :
    Spares program :=
  fun desk _ hfailure => (h desk.session desk (.refl desk)).2 _ hfailure

theorem spares_getThe : Spares (getThe Session : Desk.Act Session) :=
  fun _ _ h => by cases h

theorem spares_set (session : Session) : Spares (set session : Desk.Act PUnit) :=
  fun _ _ h => by cases h

theorem spares_finishRefresh (generation : Nat) (settings : Settings) (withCache : Bool) :
    Spares (finishRefresh (moment.host depth) generation settings withCache) := by
  refine spares_getThe.bind fun session => (spares_run _ _).bind fun tree =>
    spares_getThe.bind fun now => (spares_set _).bind fun _ => ?_
  split
  next => exact (spares_pure _).bind fun _ => spares_pure none
  next snapshot _ =>
    exact (Stores.spares fun _ => stores_persistCache tree).bind fun _ =>
      (Stores.spares fun _ => stores_noteTotals snapshot.stats).bind fun _ => spares_pure _

end Spares

section Opening

variable (henabled : desk.session.cacheEnabled = true) (hnone : desk.session.cache = none)
include henabled hnone

/-- Whatever comes after, the cache is what fails just if it cannot be loaded. -/
theorem openCache_fails_iff {α : Type} {next : Bool → Desk.Act α}
    (hnext : ∀ found, Spares (next found)) {failure : Cache.LoadFailure} :
    (outcome (openCache (moment.host depth) >>= next) desk).1 = .error (.cache failure) ↔
      Cache.Unloadable depth (desk.disk.read desk.session.settings.cachePath) failure := by
  rw [← @Cache.load_eq_error_iff depth desk.session.settings.cachePath, outcome_bind,
    outcome_openCache_of_load henabled hnone]
  cases Cache.load depth desk.session.settings.cachePath
      (desk.disk.read desk.session.settings.cachePath) with
  | ok cache => exact ⟨fun h => absurd h (hnext true _ failure), fun h => by cases h⟩
  | error e => simp

theorem refresh_fails_iff (hdirectory : moment.isDirectory desk.session.root = .ok true)
    {failure : Cache.LoadFailure} :
    (outcome (refresh (moment.host depth)) desk).1 = .error (.cache failure) ↔
      Cache.Unloadable depth (desk.disk.read desk.session.settings.cachePath) failure := by
  rw [outcome_refresh_eq_openCache_bind hdirectory]
  refine openCache_fails_iff ?_ ?_ fun _ => spares_finishRefresh _ _ _
  · exact henabled
  · exact hnone

theorem document_fails_iff (path : Path) {failure : Cache.LoadFailure} :
    (outcome (document (moment.host depth) (some path) none) desk).1 = .error (.cache failure) ↔
      Cache.Unloadable depth (desk.disk.read desk.session.settings.cachePath) failure :=
  openCache_fails_iff henabled hnone fun _ => spares_getThe.bind fun _ => spares_run _ _

end Opening

/-- What the file of a cache may hold. A refresh and the analysis of a document fail for want of the
cache if its file cannot be loaded, and for no other contents. Contents that are no document are
taken for an empty cache, and of a document just those entries are found that have the signature
that is asked for and statistics that make sense. -/
theorem fails_iff_unloadable (hdirectory : moment.isDirectory desk.session.root = .ok true)
    (henabled : desk.session.cacheEnabled = true) (hnone : desk.session.cache = none) :
    let path := desk.session.settings.cachePath
    let contents := desk.disk.read path
    (∀ failure, (outcome (refresh (moment.host depth)) desk).1 = .error (.cache failure) ↔
      Cache.Unloadable depth contents failure) ∧
    (∀ file failure, (outcome (document (moment.host depth) (some file) none) desk).1 =
      .error (.cache failure) ↔ Cache.Unloadable depth contents failure) ∧
    ((∀ failure, ¬ Cache.Unloadable depth contents failure) → ∃ cache,
      Cache.load depth path contents = .ok cache ∧
      ((∀ fields, ¬ Cache.IsDocument depth contents fields) → cache.entries = ∅) ∧
      ∀ fields, Cache.IsDocument depth contents fields → ∀ key signature stats,
        cache.get? key signature = some stats ↔
          ∃ entry found, fields.lookup (RawText.ofString key) = some entry ∧
            entry.field? "signature" = some (.string (RawText.ofString signature)) ∧
            entry.field? "stats" = some found ∧ FileStats.ofCached? found = some stats) := by
  intro path contents
  refine ⟨fun _ => refresh_fails_iff henabled hnone hdirectory,
    fun file _ => document_fails_iff henabled hnone file, fun hloadable => ?_⟩
  cases hload : Cache.load depth path contents with
  | error failure => exact absurd (Cache.load_eq_error_iff.1 hload) (hloadable failure)
  | ok cache =>
    exact ⟨cache, rfl, Cache.entries_eq_empty_of_load hload,
      fun _ hdocument _ _ _ => Cache.get?_eq_some_iff_of_load hload hdocument⟩

/-! ## Halves of pairs -/

/-- A text that holds half of a pair leaves the file empty. -/
theorem outcome_writeCache_of_unencodable {path : Path} {text : RawText}
    {fault : Text.Utf8.Unencodable} (hencode : Text.Utf8.encodeRaw text = .error fault) {disk : Disk}
    (hempties : outcome (do Disk.ensureDirectories path.parent; Disk.write path []) desk.disk =
      (.ok (), disk)) :
    outcome ((moment.host depth).writeCache path text) desk =
      (.ok (.error (.unencodable fault)), { desk with disk }) := by
  have hwrite : outcome (Disk.writeText path text) desk.disk =
      (.error (.unencodable fault), disk) := by
    have hthrows : Disk.writeText path text = (do
        Disk.ensureDirectories path.parent
        Disk.write path []) >>= fun _ => throw (.unencodable fault) := by
      rw [Disk.writeText, hencode, bind_assoc]
    rw [hthrows, outcome_bind_ok hempties]
    rfl
  rw [outcome_writeCache, hwrite]

/-- What holds of the cache at hand, if there is one. -/
def AtHand (Q : Cache → Prop) (desk : Desk) : Prop :=
  ∀ cache, desk.session.cache = some cache → Q cache

section AtHand

variable {Q : Cache → Prop} (hstore : ∀ cache key signature stats time, Q cache →
  Q (cache.store key signature stats time))
include hstore

theorem keeps_atHand_answer (request : Request) :
    Keeps (AtHand Q) (answer (moment.host depth) request) := by
  intro desk h
  cases request with
  | remember key signature stats =>
    intro cache hcache
    obtain ⟨before, hbefore, rfl⟩ := Option.map_eq_some_iff.1 hcache
    exact hstore before key signature stats _ (h before hbefore)
  | list file => exact (Desk.outcome_possible (moment.list file) desk).symm ▸ h
  | read file => exact (Desk.outcome_possible (moment.read file) desk).symm ▸ h
  | signature file => exact (Desk.outcome_possible (moment.signature file) desk).symm ▸ h
  | identity file => exact (Desk.outcome_required (moment.identity file) desk).symm ▸ h
  | directoryBound | lookUp | note => exact h

theorem keeps_atHand_atWork {α : Type} (job : Job α) :
    Keeps (AtHand Q) (moment.atWork depth job) := by
  induction job with
  | done a => exact keeps_pure a
  | ask request next ih => exact (keeps_atHand_answer hstore request).bind ih

end AtHand

section Halves

variable {cache : Cache} {tree : Node} {path : Path} {key : String} {entry : CacheEntry} {disk : Disk}
  (hdirty : (cache.prune tree.scriptPaths).dirty = true) (hkey : key ∈ tree.scriptPaths)
  (hentry : cache.entries[RawText.ofString key]? = some entry) (hhalf : entry.toJson.isText = false)
  (hempties : outcome (do Disk.ensureDirectories path.parent; Disk.write path []) desk.disk =
    (.ok (), disk))
include hdirty hkey hentry hhalf hempties

/-- What is known of a script of the tree is not forgotten, so half of a pair in it has to be written. -/
theorem persistCache_fails_of_half (hcache : desk.session.cache = some cache)
    (htidy : AtHand (Cache.TidyAt path) desk) :
    ∃ fault, outcome (persistCache (moment.host depth) tree) desk = (.error (.files (.unencodable fault)),
      ⟨{ desk.session with cache := some (cache.prune tree.scriptPaths) }, disk⟩) := by
  obtain ⟨hpath, htidy⟩ := htidy cache hcache
  have hkept : (cache.prune tree.scriptPaths).entries[RawText.ofString key]? = some entry := by
    rw [Cache.getElem?_prune, if_pos (by simpa using ⟨key, hkey, rfl⟩), hentry]
  have hpruned : Cache.Tidy (cache.prune tree.scriptPaths).entries := htidy.prune tree.scriptPaths
  obtain ⟨fault, hencode⟩ := hpruned.exists_encodeRaw_eq_error hkept hhalf
  have hdue : (cache.prune tree.scriptPaths).due? =
      some (path, (cache.prune tree.scriptPaths).fileText) := by
    rw [Cache.due?, if_pos hdirty, Cache.path_prune, hpath]
    rfl
  refine ⟨fault, ?_⟩
  rw [persistCache, outcome_bind_ok (outcome_mapCache _ hcache), outcome_bind_ok (Desk.outcome_get _)]
  simp only [Desk.withCache, Option.bind_some, hdue]
  have hwrite := @outcome_writeCache_of_unencodable moment depth
    (desk.withCache (some (cache.prune tree.scriptPaths))) _ _ fault hencode disk hempties
  exact (outcome_bind_ok hwrite _).trans rfl

/-- A file that can be loaded can fail a refresh as well. If it told half of a pair of a script that is
still there, and the refresh has found anything new or gone, the refresh has published its tree when it
fails to write the cache, and leaves the file empty. -/
theorem refresh_fails_of_half (hdirectory : moment.isDirectory desk.session.root = .ok true)
    (henabled : desk.session.cacheEnabled = true) (hnone : desk.session.cache = none)
    (hpath : desk.session.settings.cachePath = path) {loaded : Cache}
    (hload : Cache.load depth path (desk.disk.read path) = .ok loaded)
    (htree : outcome (moment.atWork depth (buildTree desk.session.options true desk.session.root))
      (Desk.withCache { desk with session := desk.session.begin.2 } (some loaded)) =
        (.ok tree, Desk.withCache { desk with session := desk.session.begin.2 } (some cache))) :
    ∃ fault, outcome (refresh (moment.host depth)) desk = (.error (.files (.unencodable fault)),
      ⟨{ desk.session.begin.2 with
          cache := some (cache.prune tree.scriptPaths)
          snapshot := some ⟨desk.session.generation + 1, desk.session.root, tree⟩ }, disk⟩) := by
  subst hpath
  have hopen : outcome (openCache (moment.host depth)) { desk with session := desk.session.begin.2 } =
      (.ok true, Desk.withCache { desk with session := desk.session.begin.2 } (some loaded)) := by
    rw [outcome_openCache_of_load (by exact henabled) (by exact hnone)]
    have hfile : Cache.load depth desk.session.begin.2.settings.cachePath
        (desk.disk.read desk.session.begin.2.settings.cachePath) = .ok loaded := hload
    dsimp only
    rw [hfile]
  have hbegun : AtHand (Cache.TidyAt desk.session.settings.cachePath)
      (Desk.withCache { desk with session := desk.session.begin.2 } (some loaded)) := by
    intro found hfound
    obtain rfl := Option.some_inj.1 hfound
    exact ⟨(Cache.load_eq_ok hload).1, Cache.tidy_of_load hload⟩
  have hanalysed := @keeps_atHand_atWork moment depth _ (fun _ _ signature _ _ htidy =>
      ⟨htidy.1, htidy.2.store (CacheEntry.stored_ofStats 0 signature _ _).tidy⟩) _
    (buildTree desk.session.options true desk.session.root) _ hbegun
  rw [htree] at hanalysed
  obtain ⟨fault, hpersist⟩ := @persistCache_fails_of_half moment depth
    ⟨{ desk.session.begin.2 with
      cache := some cache
      snapshot := some ⟨desk.session.generation + 1, desk.session.root, tree⟩ }, desk.disk⟩
    cache tree _ key entry disk hdirty hkey hentry hhalf hempties rfl hanalysed
  refine ⟨fault, ?_⟩
  rw [outcome_refresh hdirectory hopen]
  exact (@outcome_finishRefresh depth moment
    (Desk.withCache { desk with session := desk.session.begin.2 } (some loaded)) true tree (some cache)
    htree).trans (outcome_bind_error hpersist _)

end Halves

/-! ## A single byte -/

/-- A workspace without scripts. -/
def bare : Moment where
  isDirectory _ := .ok true
  list _ := .ok []
  read path := .error (.fault .notFound path.text)
  signature path := .error (.fault .notFound path.text)
  identity path := .ok path.text
  directoryBound := 1
  settings root := .ok { root }
  time := ""

/-- A session whose cache is kept in a file of one byte, with which no character begins. -/
def spoilt : Desk where
  session :=
    { root := ⟨.root, ["w"]⟩
      settings :=
        { root := ⟨.root, ["w"]⟩, cache := { enabled := true, path := some ⟨.root, ["c"]⟩ } } }
  disk := { items := [(["c"], .file [0xFF] 0)] }

theorem read_spoilt : spoilt.disk.read ⟨.root, ["c"]⟩ = .ok [0xFF] := by
  have hmissing : Disk.locate {} .follow ⟨.root, ["c"]⟩ = .ok (["c"], none) :=
    Disk.locate_missing Disk.isRootName_c rfl .follow
  exact Disk.read_put (by decide) hmissing (by simp) [0xFF] 0

theorem fails_iff_unloadable_spoilt :
    (outcome (document (bare.host 5) (some ⟨.root, ["w", "a.nani"]⟩) none) spoilt).1 =
      .error (.cache (.undecodable ⟨0xFF, 0, 1, .startByte⟩)) := by
  have hunloadable : Cache.Unloadable 5 (spoilt.disk.read ⟨.root, ["c"]⟩)
      (.undecodable ⟨0xFF, 0, 1, .startByte⟩) := read_spoilt ▸ .undecodable rfl
  have hfails := @fails_iff_unloadable bare 5 spoilt rfl rfl rfl
  exact (hfails.2.1 _ _).2 hunloadable

/-- There are contents with which no cache can be loaded, and then a refresh fails. -/
theorem not_refresh_spoilt : ¬ ∀ failure,
    (outcome (refresh (bare.host 5)) spoilt).1 ≠ .error (.cache failure) := by
  intro hspared
  refine hspared (.undecodable ⟨0xFF, 0, 1, .startByte⟩) ?_
  refine (refresh_fails_iff rfl rfl rfl).2 ?_
  exact read_spoilt ▸ .undecodable rfl

/-! ## A single half -/

/-- A workspace with a single script, whose signature cannot be taken. -/
def solitary : Moment :=
  { bare with
    list := fun _ => .ok [⟨"a.nani", ⟨.root, ["w", "a.nani"]⟩, false⟩]
    read := fun _ => .ok [] }

/-- A cache file with an entry of the script that holds half of a pair, and one of a script that is gone. -/
def halvedText : List Char :=
  ["\x7b\"version\":1,", "\"entries\":\x7b",
    "\"/w/a.nani\":\x7b\"signature\":\"\\ud800\",", "\"stats\":0\x7d,",
    "\"/w/b.nani\":\x7b\"signature\":\"\",", "\"stats\":0\x7d", "\x7d\x7d"].flatMap String.toList

def solitaryTree : Node :=
  Node.ofDirectory ⟨.root, ["w"]⟩ [Node.ofScript ⟨"a.nani", ⟨.root, ["w", "a.nani"]⟩, false⟩ {}]

theorem scriptPaths_solitaryTree : solitaryTree.scriptPaths = ["/w/a.nani"] := by
  simp [solitaryTree, Node.ofDirectory, Node.ofScript, Node.scriptPaths]
  decide

def halved : Desk :=
  { spoilt with disk := { items := [(["c"], .file (Text.Utf8.encode halvedText) 0)] } }

theorem load_halved : ∃ cache entry, Cache.load 5 ⟨.root, ["c"]⟩ (halved.disk.read ⟨.root, ["c"]⟩) =
      .ok cache ∧ (cache.prune ["/w/a.nani"]).dirty = true ∧
    cache.entries[RawText.ofString "/w/a.nani"]? = some entry ∧ entry.toJson.isText = false := by
  have hmissing : Disk.locate {} .follow ⟨.root, ["c"]⟩ = .ok (["c"], none) :=
    Disk.locate_missing Disk.isRootName_c rfl .follow
  have hread : halved.disk.read ⟨.root, ["c"]⟩ = .ok (Text.Utf8.encode halvedText) :=
    Disk.read_put (by decide) hmissing (by simp) (Text.Utf8.encode halvedText) 0
  have hfound : (Cache.load 5 ⟨.root, ["c"]⟩ (.ok (Text.Utf8.encode halvedText))).toOption.map
      (fun cache => ((cache.prune ["/w/a.nani"]).dirty,
        cache.entries[RawText.ofString "/w/a.nani"]?.map (·.toJson.isText))) =
        some (true, some false) := by
    decide +kernel
  obtain ⟨cache, hload, heq⟩ := Option.map_eq_some_iff.1 hfound
  obtain ⟨hdirty, hentry⟩ := Prod.mk.inj heq
  obtain ⟨entry, hentry, hhalf⟩ := Option.map_eq_some_iff.1 hentry
  refine ⟨cache, entry, ?_, hdirty, hentry, hhalf⟩
  rw [hread]
  cases h : Cache.load 5 ⟨.root, ["c"]⟩ (.ok (Text.Utf8.encode halvedText)) with
  | error e =>
    rw [h] at hload
    cases hload
  | ok found =>
    rw [h] at hload
    exact congrArg Except.ok (Option.some_inj.1 hload)

/-- The file can be loaded, and the refresh fails all the same. -/
theorem refresh_fails_halved :
    ∃ fault, (outcome (refresh (solitary.host 5)) halved).1 = .error (.files (.unencodable fault)) := by
  obtain ⟨cache, entry, hload, hdirty, hentry, hhalf⟩ := load_halved
  have hempties := (outcome_bind_ok (Disk.outcome_ensureDirectories_root halved.disk)
    fun _ => Disk.write ⟨.root, ["c"]⟩ []).trans (Disk.outcome_write_of_file Disk.isRootName_c rfl [])
  rw [← scriptPaths_solitaryTree] at hdirty
  obtain ⟨fault, hrefresh⟩ := @refresh_fails_of_half solitary 5 halved cache solitaryTree
    ⟨.root, ["c"]⟩ "/w/a.nani" entry _ hdirty (by simp [scriptPaths_solitaryTree]) hentry hhalf hempties
    rfl rfl rfl rfl cache hload rfl
  exact ⟨fault, congrArg Prod.fst hrefresh⟩

end Session

end ScriptStats
