import Mathlib
import ScriptStats.Proofs.Session.Again
import ScriptStats.Proofs.Session.Hidden

/-!
# A workspace that holds its own cache

A session keeps its cache in a directory of the workspace if nothing else is said. The first refresh makes
that directory, and the next one finds it, unless it is left out by name.
-/

namespace ScriptStats.DiskWorld

open Program

/-! ## The disk -/

/-- A disk with a single script, which is empty. -/
def bare : Disk where
  items := [(["a.nani"], .file [] 0)]

/-- The same disk after a session has written its cache. -/
def furnished (bytes : Bytes) : Disk where
  items := [([".nanistats", "stats_cache.json"], .file bytes 1700000000001000000),
    ([".nanistats"], .directory), (["a.nani"], .file [] 0)]
  clock := 1700000000001000000

def cacheFile : Path :=
  ⟨.root, [".nanistats", "stats_cache.json"]⟩

def onlyScript : Entry :=
  ⟨"a.nani", ⟨.root, ["a.nani"]⟩, false⟩

/-- The directory of the cache, as the workspace lists it. -/
def cacheEntry : Entry :=
  ⟨".nanistats", ⟨.root, [".nanistats"]⟩, true⟩

variable {bytes : Bytes} {names : List String}

theorem proper_bare : bare.Proper where
  nodup := by decide
  ne_nil := by decide
  named := by
    intro found hfound name hname
    obtain rfl := List.mem_singleton.1 hfound
    obtain rfl := List.mem_singleton.1 hname
    exact ⟨by decide, by decide, by decide, by decide, by simp⟩
  within := by
    intro found hfound
    obtain rfl := List.mem_singleton.1 hfound
    rfl
  current := rfl

/-- A session on the whole disk that leaves out the directories of these names. -/
def caretaker (names : List String) : Session where
  root := ⟨.root, []⟩
  settings := { root := ⟨.root, []⟩, excludeDirs := names, cache := { enabled := true } }

/-! ## The disks -/

/-- What is to be found on the disk: these entries at the root, and an empty script. -/
structure Shows (disk : Disk) (entries : List Entry) : Prop where
  isDirectory : (disk.moment true "").isDirectory ⟨.root, []⟩ = .ok true
  identity : (disk.moment true "").identity ⟨.root, []⟩ = .ok "/"
  list : disk.list true ⟨.root, []⟩ = .ok entries
  signature : (disk.moment true "").signature onlyScript.path = .ok ⟨0, 0⟩
  read : disk.read onlyScript.path = .ok []

/-- What there is before the cache is written, what writing it does, and what there is afterwards. -/
structure Furnishing (bytes : Bytes) : Prop where
  before : Shows bare [onlyScript]
  unwritten : bare.read cacheFile = .error (.fault .notFound "/.nanistats/stats_cache.json")
  makes : outcome (Disk.ensureDirectories ⟨.root, [".nanistats"]⟩) bare =
    (.ok (), bare.put [".nanistats"] .directory)
  writes : outcome (Disk.write cacheFile bytes) (bare.put [".nanistats"] .directory) =
    (.ok (), furnished bytes)
  after : Shows (furnished bytes) [cacheEntry, onlyScript]
  walk : ((furnished bytes).moment true "").eval
    (walk (caretaker [".nanistats"]).options ⟨.root, []⟩) = .ok [⟨⟨.root, []⟩, [onlyScript]⟩]
  innerIdentity : ((furnished bytes).moment true "").identity cacheEntry.path = .ok "/.nanistats"
  innerList : (furnished bytes).list true cacheEntry.path =
    .ok [⟨"stats_cache.json", cacheFile, false⟩]

theorem furnishing (bytes : Bytes) : Furnishing bytes where
  before := by constructor <;> cbv
  unwritten := by cbv
  makes := by cbv
  writes := by cbv
  after := by constructor <;> cbv
  walk := by cbv
  innerIdentity := by cbv
  innerList := by cbv

theorem shows_bare : Shows bare [onlyScript] :=
  (furnishing []).before

theorem shows_furnished : Shows (furnished bytes) [cacheEntry, onlyScript] :=
  (furnishing bytes).after

theorem readStats_bare :
    (bare.moment true "").eval (ScriptFile.readStats onlyScript.path) = .ok (some {}) := by
  have hread : (bare.moment true "").read onlyScript.path = .ok [] := shows_bare.read
  rw [Moment.eval_readStats, Moment.stats?, hread]
  rfl

/-! ## The caches -/

/-- Its cache when there is no file yet. -/
def blankCache : Cache where
  path := some cacheFile

/-- Its cache when the script was analysed. -/
def filledCache : Cache :=
  blankCache.store "/a.nani" "0:0" {} ""

theorem opened?_caretaker : Desk.opened? ⟨caretaker names, bare⟩ 980 = some blankCache := by
  have hload : Cache.load 980 cacheFile (bare.read cacheFile) = .ok blankCache := by
    rw [(furnishing []).unwritten]
    rfl
  have hopened : Desk.opened? ⟨caretaker names, bare⟩ 980 =
      (Cache.load 980 cacheFile (bare.read cacheFile)).toOption := rfl
  rw [hopened, hload]
  rfl

theorem get?_blankCache : blankCache.get? "/a.nani" "0:0" = none := by
  decide

theorem get?_filledCache : filledCache.written.get? "/a.nani" "0:0" = some {} := by
  decide +kernel

/-- A cache that knows the script and tells something else of it than there is to be read. -/
def staleCache : Cache :=
  (blankCache.store "/a.nani" "0:0" { scriptLines := .number 1 } "").written

theorem get?_staleCache :
    staleCache.get? "/a.nani" "0:0" = some { scriptLines := .number 1 } := by
  decide +kernel

theorem keys_filledCache : filledCache.keys = [RawText.ofString "/a.nani"] :=
  rfl

theorem keys_staleCache : staleCache.keys = [RawText.ofString "/a.nani"] :=
  rfl

theorem exists_encodeRaw_filledCache :
    ∃ bytes, Text.Utf8.encodeRaw filledCache.fileText = .ok bytes := by
  have hsound : Cache.Sound (fun _ _ _ => True) filledCache.entries :=
    Cache.Sound.store Cache.sound_empty trivial ""
  exact hsound.exists_encodeRaw_fileText

theorem outcome_writeText_bare {text : RawText} (h : Text.Utf8.encodeRaw text = .ok bytes) :
    outcome (Disk.writeText cacheFile text) bare = (.ok (), furnished bytes) := by
  have hparent : cacheFile.parent = ⟨.root, [".nanistats"]⟩ := rfl
  rw [Disk.writeText, hparent, outcome_bind_ok (furnishing bytes).makes, h]
  exact (furnishing bytes).writes

/-! ## Refreshes -/

/-- The tree of the disk without its cache. -/
def bareTree : Node :=
  Node.ofDirectory ⟨.root, []⟩ [Node.ofScript onlyScript {}]

/-- The tree of the disk as the stale cache tells it. -/
def staleTree : Node :=
  Node.ofDirectory ⟨.root, []⟩ [Node.ofScript onlyScript { scriptLines := .number 1 }]

/-- The tree of the disk with its cache. -/
def furnishedTree : Node :=
  Node.ofDirectory ⟨.root, []⟩ [Node.ofDirectory cacheEntry.path [], Node.ofScript onlyScript {}]

/-- The session after its first refresh. -/
def caring (names : List String) : Session :=
  { caretaker names with
    generation := 1, snapshot := some ⟨1, ⟨.root, []⟩, bareTree⟩, cache := some filledCache.written }

theorem scriptPaths_bareTree : bareTree.scriptPaths = ["/a.nani"] := by
  rw [bareTree, Node.scriptPaths_ofDirectory]
  simp [Node.ofScript, Node.scriptPaths]
  decide

theorem scriptPaths_staleTree : staleTree.scriptPaths = ["/a.nani"] := by
  rw [staleTree, Node.scriptPaths_ofDirectory]
  simp [Node.ofScript, Node.scriptPaths]
  decide

theorem scriptPaths_furnishedTree : furnishedTree.scriptPaths = ["/a.nani"] := by
  simp [furnishedTree, Node.scriptPaths_ofDirectory]
  decide

theorem outcome_stats_bare {desk : Desk} (hcache : desk.session.cache = some blankCache) :
    outcome ((bare.moment true "").atWork 980 (ScriptFile.stats true onlyScript.path)) desk =
      (.ok {}, desk.withCache (some filledCache)) := by
  rw [ScriptFile.stats, if_pos rfl, Moment.outcome_cachedStats_of_miss shows_bare.signature hcache
    get?_blankCache readStats_bare]
  rfl

section Ending

variable (moment : Moment) {session : Session} {disk : Disk} {cache : Cache} {snapshot : Snapshot}
  (hcache : session.cache = some cache) (hkeys : cache.keys = [RawText.ofString "/a.nani"])
  (hpaths : snapshot.tree.scriptPaths = ["/a.nani"])

include hcache hkeys hpaths in
theorem outcome_prune : outcome (modifyThe Session
    (Session.mapCache (·.prune snapshot.tree.scriptPaths)) : Desk.Act PUnit) ⟨session, disk⟩ =
      (.ok ⟨⟩, ⟨session, disk⟩) := by
  have hprune : cache.prune ["/a.nani"] = cache := by
    rw [Cache.prune, hkeys]
    exact if_pos (by simp)
  rw [Session.outcome_mapCache _ hcache, hpaths, hprune, ← hcache]
  rfl

/-- A refresh that has filled the cache writes it. -/
theorem outcome_store_filled (hcache : session.cache = some filledCache)
    (hpaths : snapshot.tree.scriptPaths = ["/a.nani"])
    (hencode : Text.Utf8.encodeRaw filledCache.fileText = .ok bytes) :
    outcome (Session.store moment 980 snapshot) ⟨session, bare⟩ =
      (.ok (some snapshot), ⟨{ session with cache := some filledCache.written }, furnished bytes⟩) := by
  have hwrite : outcome ((moment.host 980).writeCache cacheFile filledCache.fileText)
      ⟨session, bare⟩ = (.ok (.ok ()), ⟨session, furnished bytes⟩) := by
    rw [Session.outcome_writeCache, outcome_writeText_bare hencode]
  have hpersist : outcome (Session.persistCache (moment.host 980) snapshot.tree) ⟨session, bare⟩ =
      (.ok (), ⟨{ session with cache := some filledCache.written }, furnished bytes⟩) := by
    have hdue : (some filledCache).bind Cache.due? = some (cacheFile, filledCache.fileText) := rfl
    rw [Session.persistCache, outcome_bind_ok (outcome_prune hcache keys_filledCache hpaths),
      outcome_bind_ok (Desk.outcome_get _), hcache, hdue]
    dsimp only
    rw [outcome_bind_ok hwrite]
    change (Except.ok (), Desk.withCache _ (session.cache.map _)) = _
    rw [hcache]
    rfl
  rw [Session.store, outcome_bind_ok hpersist, outcome_bind_ok (Session.outcome_noteTotals ..)]
  rfl

include hcache hkeys hpaths in
/-- A refresh that has found nothing new leaves everything as it is. -/
theorem outcome_store_clean (hclean : cache.dirty = false) :
    outcome (Session.store moment 980 snapshot) ⟨session, disk⟩ =
      (.ok (some snapshot), ⟨session, disk⟩) := by
  have hpersist : outcome (Session.persistCache (moment.host 980) snapshot.tree) ⟨session, disk⟩ =
      (.ok (), ⟨session, disk⟩) := by
    have hdue : (some cache).bind Cache.due? = none := by
      rw [Option.bind_some, Cache.due?, hclean]
      rfl
    rw [Session.persistCache, outcome_bind_ok (outcome_prune hcache hkeys hpaths),
      outcome_bind_ok (Desk.outcome_get _), hcache, hdue]
    rfl
  rw [Session.store, outcome_bind_ok hpersist, outcome_bind_ok (Session.outcome_noteTotals ..)]
  rfl

end Ending

theorem eval_walk_bare : (bare.moment true "").eval (walk (caretaker names).options ⟨.root, []⟩) =
    .ok [⟨⟨.root, []⟩, [onlyScript]⟩] := by
  have hname : ".nani".toList.isSuffixOf onlyScript.name.toList = true := by decide
  exact @Moment.eval_walk_of_list (bare.moment true "") _ _ onlyScript "/" shows_bare.identity
    shows_bare.list rfl hname

/-- The first refresh writes the cache. -/
theorem outcome_refresh_bare (hencode : Text.Utf8.encodeRaw filledCache.fileText = .ok bytes) :
    outcome (Session.refresh ((bare.moment true "").host 980)) ⟨caretaker names, bare⟩ =
      (.ok (some ⟨1, ⟨.root, []⟩, bareTree⟩), ⟨caring names, furnished bytes⟩) := by
  have htree := @Moment.outcome_buildTree_of_walk (bare.moment true "") 980 _ _ onlyScript
    (@eval_walk_bare names) rfl true {} _ _
    (@outcome_stats_bare (Session.begunWith ⟨caretaker names, bare⟩ blankCache) rfl)
  have hbegin := @Session.outcome_refresh_withCache (bare.moment true "") 980
    ⟨caretaker names, bare⟩ blankCache rfl opened?_caretaker shows_bare.isDirectory
  have hrefresh := @Session.outcome_refresh_of_tree (bare.moment true "") 980
    (Desk.withCache ⟨caretaker names, bare⟩ (some blankCache)) _ blankCache shows_bare.isDirectory rfl rfl _
    htree
  rw [hbegin, hrefresh]
  exact @outcome_store_filled _ (bare.moment true "") _ ⟨1, ⟨.root, []⟩, bareTree⟩ rfl
    scriptPaths_bareTree hencode

/-- A refresh with the stale cache at hand shows what it tells. -/
theorem outcome_refresh_stale : outcome (Session.refresh ((bare.moment true "").host 980))
    ⟨{ caretaker names with cache := some staleCache }, bare⟩ =
      (.ok (some ⟨1, ⟨.root, []⟩, staleTree⟩), ⟨{ caretaker names with
        generation := 1, snapshot := some ⟨1, ⟨.root, []⟩, staleTree⟩, cache := some staleCache },
          bare⟩) := by
  have hstats := @Moment.outcome_cachedStats_of_get? (bare.moment true "") 980
    (Session.begunWith ⟨caretaker names, bare⟩ staleCache) _ _ shows_bare.signature staleCache rfl _
    get?_staleCache
  have htree := @Moment.outcome_buildTree_of_walk (bare.moment true "") 980 _ _ onlyScript
    (@eval_walk_bare names) rfl true _ _ _ hstats
  have hrefresh := @Session.outcome_refresh_of_tree (bare.moment true "") 980
    ⟨{ caretaker names with cache := some staleCache }, bare⟩ _ _ shows_bare.isDirectory rfl rfl _ htree
  rw [hrefresh]
  exact @outcome_store_clean (bare.moment true "") _ bare _ ⟨1, ⟨.root, []⟩, staleTree⟩ rfl
    keys_staleCache scriptPaths_staleTree rfl

theorem outcome_stats_furnished {desk : Desk} (hcache : desk.session.cache = some filledCache.written) :
    outcome (((furnished bytes).moment true "").atWork 980 (ScriptFile.stats true onlyScript.path))
      desk = (.ok {}, desk) :=
  Moment.outcome_cachedStats_of_get? shows_furnished.signature hcache get?_filledCache

/-- If the directory of the cache is left out, the next refresh comes to the same tree. -/
theorem outcome_refresh_furnished_of_excluded :
    outcome (Session.refresh (((furnished bytes).moment true "").host 980))
        ⟨caring [".nanistats"], furnished bytes⟩ =
      (.ok (some ⟨2, ⟨.root, []⟩, bareTree⟩), ⟨{ caring [".nanistats"] with
        generation := 2, snapshot := some ⟨2, ⟨.root, []⟩, bareTree⟩ }, furnished bytes⟩) := by
  have htree := @Moment.outcome_buildTree_of_walk ((furnished bytes).moment true "") 980 _ _ onlyScript
    (furnishing bytes).walk rfl true {} _ _ (@outcome_stats_furnished bytes
      ⟨(caring [".nanistats"]).begin.2, furnished bytes⟩ rfl)
  have hrefresh := @Session.outcome_refresh_of_tree ((furnished bytes).moment true "") 980
    ⟨caring [".nanistats"], furnished bytes⟩ _ _ shows_furnished.isDirectory rfl rfl _ htree
  rw [hrefresh]
  exact @outcome_store_clean ((furnished bytes).moment true "") _ (furnished bytes)
    _ ⟨2, ⟨.root, []⟩, bareTree⟩ rfl keys_filledCache scriptPaths_bareTree rfl

/-- The walk through a workspace with a single script and a directory in which nothing counts. -/
theorem eval_walk_of_pair {moment : Moment} {options : WalkOptions} {root : Path}
    {directory script : Entry} {identity other : String} {entries : List Entry}
    (hidentity : moment.identity root = .ok identity)
    (hlist : moment.list root = .ok [directory, script]) (hdirectory : directory.isDirectory = true)
    (hadmitted : ¬ (options.excluded.contains directory.name ∨ Walk.tooDeep options 0))
    (hother : moment.identity directory.path = .ok other) (hne : identity ≠ other)
    (hinner : moment.list directory.path = .ok entries)
    (hnone : entries.filter (Walk.counts options 1) = []) (hscript : script.isDirectory = false)
    (hname : Walk.isScriptName options script.name = true) (hbound : moment.directoryBound = 1) :
    moment.eval (walk options root) =
      .ok [⟨root, [directory, script]⟩, ⟨directory.path, []⟩] := by
  have hkept : moment.eval (Walk.keep options 0 ((∅ : Walk.Identities).insert identity)
      [directory, script]) = .ok ([directory, script],
        ((∅ : Walk.Identities).insert identity).insert other) := by
    have hnew : ((∅ : Walk.Identities).insert identity).contains other = false := by simp [hne]
    have hadmits : moment.keepsOne options 0 ((∅ : Walk.Identities).insert identity) directory =
        .ok (true, ((∅ : Walk.Identities).insert identity).insert other) := by
      rw [Moment.keepsOne, if_pos hdirectory, Moment.eval_admits, if_neg hadmitted, hother]
      change (Except.ok (if ((∅ : Walk.Identities).insert identity).contains other then _ else _) :
        Except Failure _) = _
      rw [hnew]
      rfl
    rw [Moment.eval_keep_cons, hadmits]
    change (moment.eval (Walk.keep options 0 _ [script]) >>= _) = _
    rw [Moment.eval_keep_cons, Moment.keepsOne, hscript, hname]
    rfl
  have hbelow : Listing.directories ⟨root, [directory, script]⟩ = [directory] := by
    simp [Listing.directories, hdirectory, hscript]
  refine Moment.eval_walk_of_enter hidentity ?_
  rw [hbound, Walk.enter, Moment.eval_bind_of_ok (Moment.eval_list_eq_ok_iff.2 (.inl hlist)),
    Moment.eval_bind_of_ok hkept]
  dsimp only
  rw [hbelow]
  change (moment.eval (Walk.enter options 1 _ [(directory.path, 1)] >>= _)) = _
  rw [Walk.enter, bind_assoc,
    Moment.eval_bind_of_ok (Moment.eval_list_eq_ok_iff.2 (.inl hinner)), bind_assoc, Moment.eval_bind,
    ← Moment.eval_keep_filter, hnone]
  rfl

/-- The tree of a workspace with a single script and an empty directory. -/
theorem outcome_buildTree_of_walk_pair {moment : Moment} {options : WalkOptions} {root : Path}
    {directory script : Entry} (hwalk : moment.eval (walk options root) =
      .ok [⟨root, [directory, script]⟩, ⟨directory.path, []⟩])
    (hdirectory : directory.isDirectory = true) (hscript : script.isDirectory = false)
    {stats : FileStats} {desk left : Desk}
    (hstats : outcome (moment.atWork 980 (ScriptFile.stats true script.path)) desk =
      (.ok stats, left)) :
    outcome (moment.atWork 980 (buildTree options true root)) desk =
      (.ok (Node.ofDirectory root [Node.ofDirectory directory.path [], Node.ofScript script stats]),
        left) := by
  have hscripts : Listing.scripts ⟨root, [directory, script]⟩ = [script] := by
    simp [Listing.scripts, hdirectory, hscript]
  have hfound : outcome (moment.atWork 980 (Aggregation.analyze true
      [⟨root, [directory, script]⟩, ⟨directory.path, []⟩])) desk =
        (.ok [⟨⟨root, [directory, script]⟩, [stats]⟩, ⟨⟨directory.path, []⟩, []⟩], left) := by
    change outcome (moment.atWork 980 (List.mapM _ (Listing.scripts _) >>= _)) desk = _
    rw [hscripts, List.mapM_cons, bind_assoc, Moment.atWork_bind, outcome_bind_ok hstats]
    rfl
  rw [buildTree, Moment.atWork_bind, outcome_bind, Moment.steady_walk, hwalk]
  dsimp only
  rw [Moment.atWork_bind, outcome_bind_ok hfound]
  simp [Aggregation.root?, Aggregation.assemble?, Aggregation.children?, hdirectory, hscript,
    WaitingNodes.take?, WaitingNodes.put]
  rfl

/-- If nothing is left out, the next refresh shows the directory of the cache. -/
theorem outcome_refresh_furnished :
    outcome (Session.refresh (((furnished bytes).moment true "").host 980))
        ⟨caring [], furnished bytes⟩ =
      (.ok (some ⟨2, ⟨.root, []⟩, furnishedTree⟩), ⟨{ caring [] with
        generation := 2, snapshot := some ⟨2, ⟨.root, []⟩, furnishedTree⟩ }, furnished bytes⟩) := by
  have hwalk : ((furnished bytes).moment true "").eval (walk (caretaker []).options ⟨.root, []⟩) =
      .ok [⟨⟨.root, []⟩, [cacheEntry, onlyScript]⟩, ⟨cacheEntry.path, []⟩] :=
    @eval_walk_of_pair ((furnished bytes).moment true "") _ _ cacheEntry onlyScript "/" "/.nanistats"
      [⟨"stats_cache.json", cacheFile, false⟩] shows_furnished.identity shows_furnished.list rfl
      (by decide) (furnishing bytes).innerIdentity (by decide) (furnishing bytes).innerList (by decide)
      rfl (by decide) rfl
  have htree := @outcome_buildTree_of_walk_pair ((furnished bytes).moment true "") _ _ cacheEntry
    onlyScript hwalk rfl rfl {} _ _ (@outcome_stats_furnished bytes
      ⟨(caring []).begin.2, furnished bytes⟩ rfl)
  have hrefresh := @Session.outcome_refresh_of_tree ((furnished bytes).moment true "") 980
    ⟨caring [], furnished bytes⟩ _ _ shows_furnished.isDirectory rfl rfl _ htree
  rw [hrefresh]
  exact @outcome_store_clean ((furnished bytes).moment true "") _ (furnished bytes)
    _ ⟨2, ⟨.root, []⟩, furnishedTree⟩ rfl keys_filledCache scriptPaths_furnishedTree rfl

/-! ## One refresh after the other -/

variable {settings : Disk → Path → Except SettingsFailure Settings}

/-- The world before the first refresh. -/
def unvisited (names : List String) : DiskWorld where
  disk := bare
  session := caretaker names

/-- The world between the refreshes. -/
def visited (names : List String) (bytes : Bytes) : DiskWorld where
  disk := furnished bytes
  session := caring names

theorem exists_left {world : DiskWorld} (hquiet : world.IsQuiet) {first : Snapshot} {desk : Desk}
    (h : outcome (Session.refresh (world.moment.host 980)) world.desk = (.ok (some first), desk)) :
    ∃ left, outcome (Session.refresh (host settings)) world = (.ok (some first), left) ∧
      left.desk = desk := by
  have hrefresh := @outcome_refresh world settings hquiet
  rw [h] at hrefresh
  obtain ⟨hresult, hdesk⟩ := Prod.mk.inj hrefresh
  exact ⟨_, Prod.ext hresult.symm rfl, hdesk.symm⟩

/-- The cache is written to a directory that has to be made. -/
theorem affects_cacheFile : bare.Affects cacheFile true [".nanistats"] := by
  have hroot : bare.find .follow Disk.linkLimit [] [] = .ok ([], some .directory) := by rw [Disk.find]
  exact @Disk.Affects.directory bare cacheFile [] [] ["stats_cache.json"] ".nanistats" rfl (by decide)
    (by decide) hroot rfl

/-- That directory does not count where it is left out by name. -/
theorem hides_cacheFile : bare.Hides true (caretaker [".nanistats"]).options ⟨.root, []⟩
    [⟨⟨.root, []⟩, [onlyScript]⟩] true [".nanistats"] where
  readable := by
    intro listing hlisting
    obtain rfl := List.mem_singleton.1 hlisting
    exact shows_bare.isDirectory
  uncounted := Disk.uncounted_of_outside_or_excluded (.inr ⟨rfl, ".nanistats", by decide, rfl⟩)
  links := by
    intro _ listing _ place name text _ hlink
    have hmem := Disk.mem_items (List.concat_ne_nil _ _) hlink
    cases (Prod.mk.inj (List.mem_singleton.1 hmem)).2
  scripts := by
    intro script hscript
    obtain rfl := List.mem_singleton.1 hscript
    exact ⟨["a.nani"], .file [] 0, by cbv, by decide⟩

theorem refresh_again_of_excluded : ∃ world left next last first second,
    second.tree = first.tree ∧
      outcome (Session.refresh (host fun _ _ => .ok (caretaker [".nanistats"]).settings)) world =
        (.ok (some first), left) ∧
      outcome (Session.refresh (host fun _ _ => .ok (caretaker [".nanistats"]).settings)) next =
        (.ok (some second), last) ∧ left.disk ≠ world.disk ∧ first.tree = bareTree := by
  obtain ⟨bytes, hencode⟩ := exists_encodeRaw_filledCache
  obtain ⟨left, hfirst, hleft⟩ := @exists_left (fun _ _ => .ok (caretaker [".nanistats"]).settings)
    (unvisited [".nanistats"]) rfl _ _ (outcome_refresh_bare hencode)
  obtain ⟨last, hsecond, -⟩ := @exists_left (fun _ _ => .ok (caretaker [".nanistats"]).settings)
    (visited [".nanistats"] bytes) rfl _ _ outcome_refresh_furnished_of_excluded
  have hdisk : left.disk = furnished bytes := congrArg Desk.disk hleft
  have hsession : left.session = caring [".nanistats"] := congrArg Desk.session hleft
  have hpath : ((unvisited [".nanistats"]).desk.opened? 980).bind Cache.path = some cacheFile :=
    congrArg (Option.bind · Cache.path) opened?_caretaker
  have hunseen := @unseen_of_refresh _ (unvisited [".nanistats"]) left _ _ _ _ _ proper_bare rfl hfirst
    hpath affects_cacheFile hides_cacheFile
  have htree := @refresh_again _ (unvisited [".nanistats"]) (visited [".nanistats"] bytes) left last _ _ _
    proper_bare (fun _ h => absurd h List.not_mem_nil) rfl hfirst eval_walk_bare
    hunseen hdisk.symm rfl rfl (.goesOn hsession.symm) hsecond
  refine ⟨_, left, _, last, _, _, htree.1, hfirst, hsecond, ?_, rfl⟩
  rw [hdisk]
  exact fun h => absurd (congrArg Disk.clock h) (by simp [furnished, unvisited, bare])

theorem furnishedTree_ne_bareTree : furnishedTree ≠ bareTree := by
  intro h
  have hlength := congrArg (fun node => node.children.length) h
  exact absurd hlength (by decide)

theorem staleTree_ne_bareTree : staleTree ≠ bareTree := by
  intro h
  have hstats := congrArg (fun node => node.stats.scriptLines) h
  exact absurd hstats (by decide)

/-- The directory of its own cache shows up in the second refresh of a session, and what a cache has
wrong, which is not written, shows up in one of two sessions. -/
theorem not_refresh_again :
    (¬ ∀ (settings : Disk → Path → Except SettingsFailure Settings)
        (world left next last : DiskWorld) (first second : Snapshot),
      outcome (Session.refresh (host settings)) world = (.ok (some first), left) →
      next.disk = left.disk → next.followLinks = world.followLinks →
      next.session = left.session →
      outcome (Session.refresh (host settings)) next = (.ok (some second), last) →
        second.tree = first.tree) ∧
    ¬ ∀ (settings : Disk → Path → Except SettingsFailure Settings)
        (world left next last : DiskWorld) (first second : Snapshot),
      outcome (Session.refresh (host settings)) world = (.ok (some first), left) →
      left.disk = world.disk → next.disk = left.disk → next.followLinks = world.followLinks →
      next.session.ConfiguredLike world.session →
      outcome (Session.refresh (host settings)) next = (.ok (some second), last) →
        second.tree = first.tree := by
  obtain ⟨bytes, hencode⟩ := exists_encodeRaw_filledCache
  refine ⟨fun h => ?_, fun h => ?_⟩
  · obtain ⟨left, hfirst, hleft⟩ := @exists_left (fun _ _ => .ok (caretaker []).settings)
      (unvisited []) rfl _ _ (outcome_refresh_bare hencode)
    obtain ⟨last, hsecond, -⟩ := @exists_left (fun _ _ => .ok (caretaker []).settings)
      (visited [] bytes) rfl _ _ outcome_refresh_furnished
    have hdisk : furnished bytes = left.disk := (congrArg Desk.disk hleft).symm
    have hsession : caring [] = left.session := (congrArg Desk.session hleft).symm
    exact furnishedTree_ne_bareTree
      (h _ _ left (visited [] bytes) _ _ _ hfirst hdisk rfl hsession hsecond)
  · obtain ⟨left, hfirst, hleft⟩ := @exists_left (fun _ _ => .ok (caretaker []).settings)
      { disk := bare, session := { caretaker [] with cache := some staleCache } } rfl _ _
      outcome_refresh_stale
    obtain ⟨last, hsecond, -⟩ := @exists_left (fun _ _ => .ok (caretaker []).settings)
      (unvisited []) rfl _ _ (outcome_refresh_bare hencode)
    have hdisk : left.disk = bare := congrArg Desk.disk hleft
    exact staleTree_ne_bareTree
      (h _ _ left (unvisited []) _ _ _ hfirst hdisk hdisk.symm rfl ⟨rfl, rfl, rfl, rfl⟩ hsecond).symm

end ScriptStats.DiskWorld
