import ScriptStats.Proofs.Session.World

/-!
# Histories

Whatever a session publishes with a cache, it would publish without one, as long as the signature of
a script tells what its bytes are. It does not if an earlier signature returns.
-/

namespace ScriptStats.World

open Program Moment

variable {depth : Nat}

/-- Over every history that begins without a cache, whatever a session publishes is what it would
publish at that moment with the cache disabled. -/
theorem published?_eq_uncached (moment : Moment) {disk : Disk} (hdisk : disk.KeepsNothing depth)
    (steps : List Step) (htell : SignaturesTell (run depth ⟨moment, [], disk, []⟩ steps).seen)
    {session : Session} (hsession : session ∈ (run depth ⟨moment, [], disk, []⟩ steps).sessions)
    (call : Call) {snapshot : Snapshot}
    (hpublished : session.published? ((run depth ⟨moment, [], disk, []⟩ steps).perform depth
      session call).session = some snapshot) :
    session.uncached.published? ((run depth ⟨moment, [], disk, []⟩ steps).perform depth
      session.uncached call).session = some snapshot :=
  ((sound_of_keepsNothing hdisk moment []).run steps htell).published?_uncached htell hsession
    hpublished

/-! ## A signature that returns -/

/-- A workspace `/w` with one script of these bytes, last changed at `stamp`. -/
def draft (bytes : Bytes) (stamp : Int) : Moment where
  isDirectory _ := .ok true
  list _ := .ok [⟨"a.nani", ⟨.root, ["w", "a.nani"]⟩, false⟩]
  read _ := .ok bytes
  signature _ := .ok ⟨bytes.length, stamp⟩
  identity path := .ok path.text
  directoryBound := 1
  settings root := .ok { root, cache := { enabled := true, path := some ⟨.root, ["c"]⟩ } }
  time := ""

theorem byText_draft (bytes : Bytes) (stamp : Int) : (draft bytes stamp).ByText :=
  fun _ _ _ => ⟨rfl, rfl⟩

/-- The script changes twice, and the second time its signature is the first one again. -/
def returning (last : Bytes) : List Step :=
  [.start ⟨.root, ["w"]⟩ [] none,
   .call 0 (.document (some ⟨.root, ["w", "a.nani"]⟩) none),
   .edit (draft [32] 2),
   .edit (draft last 1)]

/-- The session of that history. -/
def writer : Session where
  root := ⟨.root, ["w"]⟩
  settings :=
    { root := ⟨.root, ["w"]⟩, cache := { enabled := true, path := some ⟨.root, ["c"]⟩ } }

/-- What it knows of the first draft. -/
def known : Cache :=
  Cache.store { path := some ⟨.root, ["c"]⟩ } "/w/a.nani" "1:1" (Script.stats ['@']) ""

theorem read_cache_of_empty : Disk.read {} ⟨.root, ["c"]⟩ = .error (.fault .notFound "/c") := by
  rw [Disk.read, Disk.status, Disk.locate_missing Disk.isRootName_c rfl .follow]
  rfl

theorem outcome_openCache_writer (moment : Moment) (depth generation : Nat) {disk : Disk}
    {e : FileError} (hread : disk.read ⟨.root, ["c"]⟩ = .error e) (hrefusal : e.isRefusal = true) :
    outcome (Session.openCache (moment.host depth)) ⟨{ writer with generation }, disk⟩ =
      (.ok true,
        ⟨{ writer with generation, cache := some { path := some ⟨.root, ["c"]⟩ } }, disk⟩) := by
  have hload : Cache.load depth ⟨.root, ["c"]⟩ (disk.read ⟨.root, ["c"]⟩) =
      .ok { path := some ⟨.root, ["c"]⟩ } := by
    rw [hread, Cache.load_error, if_pos hrefusal]
  have hpath : writer.settings.cachePath = ⟨.root, ["c"]⟩ := rfl
  rw [Session.outcome_openCache_of_load rfl rfl]
  dsimp only
  rw [hpath, hload]
  rfl

theorem document_draft (depth : Nat) (sessions : List Session) :
    (World.mk (draft [64] 1) [] {} sessions).perform depth writer
      (.document (some ⟨.root, ["w", "a.nani"]⟩) none) =
        ⟨{ writer with cache := some known }, {}⟩ := by
  have hopen := outcome_openCache_writer (draft [64] 1) depth 0 read_cache_of_empty rfl
  have hdocument : outcome (Session.document ((draft [64] 1).host depth)
      (some ⟨.root, ["w", "a.nani"]⟩) none) ⟨writer, {}⟩ = _ := outcome_bind_ok hopen _
  rw [World.perform, Call.leave, hdocument]
  rfl

theorem run_returning (depth : Nat) (last : Bytes) :
    run depth ⟨draft [64] 1, [], {}, []⟩ (returning last) =
      ⟨draft last 1, [draft [32] 2, draft [64] 1], {}, [{ writer with cache := some known }]⟩ := by
  have hstart : step depth ⟨draft [64] 1, [], {}, []⟩ (.start ⟨.root, ["w"]⟩ [] none) =
      ⟨draft [64] 1, [], {}, [writer]⟩ := rfl
  have hdocument : step depth ⟨draft [64] 1, [], {}, [writer]⟩
      (.call 0 (.document (some ⟨.root, ["w", "a.nani"]⟩) none)) =
        ⟨draft [64] 1, [], {}, [{ writer with cache := some known }]⟩ := by
    change World.mk _ _ (World.perform _ _ _ _).disk [(World.perform _ _ _ _).session] = _
    rw [document_draft]
  rw [run, returning, List.foldl_cons, hstart, List.foldl_cons, hdocument]
  rfl

/-- The tree of the workspace if the script has that text. -/
def draftTree (text : List Char) : Node :=
  Node.ofDirectory ⟨.root, ["w"]⟩
    [Node.ofScript ⟨"a.nani", ⟨.root, ["w", "a.nani"]⟩, false⟩ (Script.stats text)]

def draftListing : Listing :=
  ⟨⟨.root, ["w"]⟩, [⟨"a.nani", ⟨.root, ["w", "a.nani"]⟩, false⟩]⟩

theorem eval_walk_draft (bytes : Bytes) (stamp : Int) :
    (draft bytes stamp).eval (walk writer.options ⟨.root, ["w"]⟩) = .ok [draftListing] :=
  rfl

theorem eval_buildTree_draft (stamp : Int) :
    (draft [32] stamp).eval (buildTree writer.options false ⟨.root, ["w"]⟩) =
      .ok (draftTree [' ']) :=
  rfl

/-- Whoever knows the first draft shows it, whatever the script is now. -/
theorem outcome_buildTree_of_get? {depth : Nat} {last : Bytes} (hlast : last.length = 1)
    {desk : Desk} {cache : Cache} (hcache : desk.session.cache = some cache)
    (hget : cache.get? "/w/a.nani" "1:1" = some (Script.stats ['@'])) :
    outcome ((draft last 1).atWork depth (buildTree writer.options true ⟨.root, ["w"]⟩)) desk =
      (.ok (draftTree ['@']), desk) := by
  have hsignature : (draft last 1).signature ⟨.root, ["w", "a.nani"]⟩ = .ok ⟨1, 1⟩ := by
    rw [draft, hlast]
  have hstats : outcome ((draft last 1).atWork depth
      (ScriptFile.stats true ⟨.root, ["w", "a.nani"]⟩)) desk = (.ok (Script.stats ['@']), desk) :=
    outcome_cachedStats_of_get? hsignature hcache hget
  have hfound : outcome ((draft last 1).atWork depth
      (Aggregation.analyze true [draftListing])) desk =
        (.ok [⟨draftListing, [Script.stats ['@']]⟩], desk) := by
    change outcome ((draft last 1).atWork depth (List.mapM _ [_] >>= _)) desk = _
    rw [List.mapM_cons, bind_assoc, atWork_bind, outcome_bind_ok hstats]
    rfl
  rw [buildTree, atWork_bind, outcome_bind, steady_walk, eval_walk_draft]
  dsimp only
  rw [atWork_bind, outcome_bind_ok hfound]
  rfl

theorem get?_known : known.get? "/w/a.nani" "1:1" = some (Script.stats ['@']) :=
  Cache.get?_store ..

theorem outcome_buildTree_known {depth : Nat} {last : Bytes} (hlast : last.length = 1)
    {desk : Desk} (hcache : desk.session.cache = some known) :
    outcome ((draft last 1).atWork depth (buildTree writer.options true ⟨.root, ["w"]⟩)) desk =
      (.ok (draftTree ['@']), desk) :=
  outcome_buildTree_of_get? hlast hcache get?_known

theorem sound_known {seen : List Moment} (h : draft [64] 1 ∈ seen) :
    SoundCache seen (some known) := by
  intro found hfound
  obtain rfl := Option.some_inj.1 hfound
  exact Cache.Sound.store Cache.sound_empty
    ⟨draft [64] 1, h, ⟨.root, ["w", "a.nani"]⟩, ⟨1, 1⟩, rfl, rfl, rfl, rfl⟩ ""

/-- The session publishes what it knows, whatever the last draft is. -/
theorem published?_known (depth : Nat) {last : Bytes} (hlast : last.length = 1) :
    Session.published? { writer with cache := some known }
      ((World.mk (draft last 1) [draft [32] 2, draft [64] 1] {}
        [{ writer with cache := some known }]).perform depth
          { writer with cache := some known } .refresh).session =
      some ⟨1, ⟨.root, ["w"]⟩, draftTree ['@']⟩ := by
  have hrecords : Desk.Records depth [draft last 1, draft [32] 2, draft [64] 1]
      { writer with cache := some known } ⟨{ writer with cache := some known }, {}⟩ :=
    ⟨⟨some known, [], rfl⟩, sound_known (by simp), fun _ _ _ hmem => by cases hmem⟩
  have hopen : outcome (Session.openCache ((draft last 1).host depth))
      ⟨{ writer with cache := some known, generation := 1 }, {}⟩ = (.ok true, _) :=
    Session.outcome_openCache_of_cache rfl rfl
  have hrefresh := Session.refresh_publishes hrecords rfl hopen (outcome_buildTree_known hlast rfl)
  obtain ⟨cache, former, hsession⟩ := hrefresh.session_eq
  rw [World.perform, Call.leave, hsession]
  rfl

/-- Without a cache the session publishes the last draft. -/
theorem published?_uncached_draft (depth : Nat) (past : List Moment) (sessions : List Session) :
    Session.published? (Session.uncached { writer with cache := some known })
      ((World.mk (draft [32] 1) past {} sessions).perform depth
        (Session.uncached { writer with cache := some known }) .refresh).session =
      some ⟨1, ⟨.root, ["w"]⟩, draftTree [' ']⟩ := by
  have hempty : Disk.EveryFile (SoundBytes depth past) {} := fun _ _ _ hmem => by cases hmem
  obtain ⟨cache, former, hsession⟩ := (Call.uncached_leave_records (draft [32] 1)
    { writer with cache := some known } .refresh hempty rfl rfl
    (eval_buildTree_draft 1)).session_eq
  rw [World.perform, hsession]
  rfl

theorem signaturesTell_drafts :
    SignaturesTell [draft [64] 1, draft [32] 2, draft [64] 1] := by
  have hne (p q : Path) (signature : Signature) (h : (draft [64] 1).signature p = .ok signature) :
      (draft [32] 2).signature q ≠ .ok signature := by
    obtain rfl := Except.ok.inj h
    simp [draft]
  intro f hf g hg p q signature _ hfound hfound'
  simp only [List.mem_cons, List.not_mem_nil, or_false] at hf hg
  rcases hf with rfl | rfl | rfl <;> rcases hg with rfl | rfl | rfl
  all_goals first
    | rfl
    | exact absurd hfound' (hne p q signature hfound)
    | exact absurd hfound (hne q p signature hfound')

/-- The script comes back as it was, and what is known of it is published. -/
theorem published?_eq_uncached_returning :
    Disk.KeepsNothing 980 {} ∧
      SignaturesTell (run 980 ⟨draft [64] 1, [], {}, []⟩ (returning [64])).seen ∧
      { writer with cache := some known } ∈
        (run 980 ⟨draft [64] 1, [], {}, []⟩ (returning [64])).sessions ∧
      Session.published? { writer with cache := some known }
        ((run 980 ⟨draft [64] 1, [], {}, []⟩ (returning [64])).perform 980
          { writer with cache := some known } .refresh).session =
        some ⟨1, ⟨.root, ["w"]⟩, draftTree ['@']⟩ ∧
      Session.published? (Session.uncached { writer with cache := some known })
        ((run 980 ⟨draft [64] 1, [], {}, []⟩ (returning [64])).perform 980
          (Session.uncached { writer with cache := some known }) .refresh).session =
        some ⟨1, ⟨.root, ["w"]⟩, draftTree ['@']⟩ := by
  have hdisk : Disk.KeepsNothing 980 {} := fun _ _ _ hmem => by cases hmem
  have htell : SignaturesTell (run 980 ⟨draft [64] 1, [], {}, []⟩ (returning [64])).seen := by
    rw [run_returning]
    exact signaturesTell_drafts
  have hsession : { writer with cache := some known } ∈
      (run 980 ⟨draft [64] 1, [], {}, []⟩ (returning [64])).sessions := by
    rw [run_returning]
    exact List.mem_singleton_self _
  have hpublished : Session.published? { writer with cache := some known }
      ((run 980 ⟨draft [64] 1, [], {}, []⟩ (returning [64])).perform 980
        { writer with cache := some known } .refresh).session =
      some ⟨1, ⟨.root, ["w"]⟩, draftTree ['@']⟩ := by
    rw [run_returning]
    exact published?_known 980 rfl
  exact ⟨hdisk, htell, hsession, hpublished,
    published?_eq_uncached (draft [64] 1) hdisk (returning [64]) htell hsession .refresh hpublished⟩

/-- Every edit that changes what is read at a path gives the path a signature that it never had. -/
def EditsSign (moment : Moment) (past : List Moment) : List Step → Prop
  | [] => True
  | .edit next :: steps =>
    (∀ path, (next.read path).toOption ≠ (moment.read path).toOption →
      ∀ earlier ∈ moment :: past, ∀ signature, next.signature path = .ok signature →
        earlier.signature path ≠ .ok signature) ∧ EditsSign next (moment :: past) steps
  | _ :: steps => EditsSign moment past steps

theorem editsSign_returning : EditsSign (draft [64] 1) [] (returning [32]) := by
  refine ⟨fun path _ earlier hearlier signature h => ?_, fun path h => absurd rfl h, trivial⟩
  obtain rfl := List.mem_singleton.1 hearlier
  obtain rfl := Except.ok.inj h
  simp [draft]

/-- It is not enough that edits of the bytes give new signatures: an edit that leaves the bytes
alone may bring back the signature of others, which a cache still knows. -/
theorem not_published?_eq_uncached_of_editsSign :
    ¬ ∀ (depth : Nat) (moment : Moment) (disk : Disk), disk.KeepsNothing depth →
      ∀ steps : List Step, EditsSign moment [] steps →
        ∀ session ∈ (run depth ⟨moment, [], disk, []⟩ steps).sessions,
          ∀ (call : Call) (snapshot : Snapshot),
            session.published? ((run depth ⟨moment, [], disk, []⟩ steps).perform depth
              session call).session = some snapshot →
            session.uncached.published? ((run depth ⟨moment, [], disk, []⟩ steps).perform depth
              session.uncached call).session = some snapshot := by
  intro h
  have hempty : Disk.KeepsNothing 980 {} := fun _ _ _ hmem => by cases hmem
  have hsession : { writer with cache := some known } ∈
      (run 980 ⟨draft [64] 1, [], {}, []⟩ (returning [32])).sessions := by
    rw [run_returning]
    exact List.mem_singleton_self _
  have hstale := h 980 (draft [64] 1) {} hempty (returning [32]) editsSign_returning _ hsession
    .refresh ⟨1, ⟨.root, ["w"]⟩, draftTree ['@']⟩
    (by rw [run_returning]; exact published?_known 980 rfl)
  rw [run_returning, published?_uncached_draft] at hstale
  have hlines := congrArg (fun snapshot => snapshot.tree.stats.scriptLines)
    (Option.some_inj.1 hstale)
  exact absurd hlines (by decide)

end ScriptStats.World
