import ScriptStats.Proofs.Session.Adding
import ScriptStats.Session.Memory

/-!
# The analysis of a single script

Whatever the files reply, and be it a refusal, the analysis of a script comes to statistics. It changes
nothing of the session but what the cache remembers of that script, and this only if the script has been
read under a signature.
-/

namespace ScriptStats

open Program

variable {σ α : Type}

namespace Job

variable {ε β : Type} {answer : (request : Request) → Program ε σ request.Reply} {state left : σ}

theorem outcome_run_bind {job : Job α} {a : α}
    (h : outcome (job.run answer) state = (.ok a, left)) (next : α → Job β) :
    outcome ((job >>= next).run answer) state = outcome ((next a).run answer) left := by
  rw [run_bind, outcome_bind_ok h]

theorem outcome_run_send {request : Request} {reply : request.Reply}
    (h : outcome (answer request) state = (.ok reply, left)) (next : request.Reply → Job β) :
    outcome ((send request >>= next).run answer) state = outcome ((next reply).run answer) left :=
  outcome_bind_ok h _

end Job

/-! ## Hosts that do no more than refuse -/

/-- The program comes to a reply such as `Q` says, and leaves the session as it is. -/
def Replies (session : σ → Session) (program : Program Failure σ α) (Q : α → Prop) : Prop :=
  ∀ state, ∃ reply left, outcome program state = (.ok reply, left) ∧
    session left = session state ∧ Q reply

/-- What is not granted has been refused by the file system. -/
def IsGrantedOrRefused (reply : Except FileError α) : Prop :=
  ∀ e, reply = .error e → e.isRefusal = true

/-- A host that sees to the session and leaves it alone otherwise. It may refuse to read any file and to
tell its signature, but fails in no other way. -/
structure Host.OnlyRefuses (session : σ → Session) [MonadStateOf Session (Program Failure σ)]
    (host : Host (Program Failure σ)) : Prop where
  getSession : ∀ state,
    outcome (getThe Session : Program Failure σ Session) state = (.ok (session state), state)
  mapSession : ∀ f state, ∃ left,
    outcome (modifyThe Session f : Program Failure σ PUnit) state = (.ok ⟨⟩, left) ∧
      session left = f (session state)
  read : ∀ path, Replies session (host.read path) IsGrantedOrRefused
  signature : ∀ path, Replies session (host.signature path) IsGrantedOrRefused
  time : Replies session host.time fun _ => True
  log : ∀ record, Replies session (host.log record) fun _ => True

/-! ## What changes in a cache -/

/-- Whether there is a cache and where it is kept stays the same, and so do all entries but the one of
the key. -/
structure Cache.ChangesAt (key : RawText) (before after : Option Cache) : Prop where
  path_eq : after.map Cache.path = before.map Cache.path
  getElem?_eq : ∀ other, other ≠ key →
    (after.bind fun cache => cache.entries[other]?) = before.bind fun cache => cache.entries[other]?

theorem Cache.changesAt_refl (key : RawText) (cache : Option Cache) : ChangesAt key cache cache :=
  ⟨rfl, fun _ _ => rfl⟩

theorem Cache.changesAt_store (cache : Option Cache) (key signature : String) (stats : FileStats)
    (time : String) : ChangesAt (RawText.ofString key) cache
      (cache.map (·.store key signature stats time)) := by
  cases cache with
  | none => exact changesAt_refl _ _
  | some cache =>
    refine ⟨rfl, fun other hne => ?_⟩
    exact (getElem?_store cache key signature stats time other).trans (if_neg hne.symm)

/-! ## Reading a script -/

namespace ScriptFile

/-- The statistics of what has been read, if it is a text. -/
def counted (reply : Except FileError Bytes) : Option FileStats :=
  reply.toOption.bind fun bytes => (Script.decode bytes).toOption.map Script.stats

/-- The record of statistics that are taken from the cache. -/
def reuse (path : Path) : LogRecord :=
  ⟨.analyzer, .debug, "Reusing cached stats for " ++ path.text⟩

/-- The signature that a cache is asked under, if there is one, and the state that taking it leaves.
Without a cache none is taken. -/
def Signs (host : Host (Program Failure σ)) (path : Path) (state : σ) :
    Option Cache → Option String → σ → Prop
  | none, signature, asked => signature = none ∧ asked = state
  | some _, signature, asked => ∃ reply, outcome (host.signature path) state = (.ok reply, asked) ∧
      signature = reply.toOption.map Signature.text

/-- What the analysis of the script at `path` comes to, and what it leaves, in a session whose cache is
asked under `signature`, in the state `asked`. -/
structure ComesTo (session : σ → Session) (host : Host (Program Failure σ)) (path : Path)
    (before : Session) (signature : Option String) (asked : σ) (stats : FileStats) (left : σ) :
    Prop where
  /-- What the cache tells is taken, and nothing is done but to note this. -/
  told : ∀ known, signature.bind (Cache.tells? before.cache path.text) = some known →
    stats = known ∧ session left = before ∧ outcome (host.log (reuse path)) asked = (.ok (), left)
  /-- Otherwise the file is read. What cannot be counted is not remembered, and neither is anything
  without a signature. -/
  read : signature.bind (Cache.tells? before.cache path.text) = none →
    ∃ reply after, outcome (host.read path) asked = (.ok reply, after) ∧
      (counted reply = none → stats = {} ∧ session left = before) ∧
      ∀ found, counted reply = some found → stats = found ∧
        (signature = none → session left = before) ∧
        ∀ text, signature = some text → Cache.tells? (session left).cache path.text text = some found
  others : session left = { before with cache := (session left).cache }
  changes : Cache.ChangesAt (RawText.ofString path.text) before.cache (session left).cache

section ComesTo

variable {session : σ → Session} {host : Host (Program Failure σ)} {path : Path} {before : Session}
  {signature : Option String} {asked after left : σ} {stats : FileStats}
  {reply : Except FileError Bytes}

theorem comesTo_of_told (htold : signature.bind (Cache.tells? before.cache path.text) = some stats)
    (hlog : outcome (host.log (reuse path)) asked = (.ok (), left)) (hleft : session left = before) :
    ComesTo session host path before signature asked stats left where
  told known hknown := ⟨Option.some_inj.1 (htold.symm.trans hknown), hleft, hlog⟩
  read hmissing := nomatch htold.symm.trans hmissing
  others := by rw [hleft]
  changes := by rw [hleft]; exact Cache.changesAt_refl _ _

theorem comesTo_of_uncounted
    (hmissing : signature.bind (Cache.tells? before.cache path.text) = none)
    (hread : outcome (host.read path) asked = (.ok reply, after)) (hcounted : counted reply = none)
    (hleft : session left = before) :
    ComesTo session host path before signature asked {} left where
  told known htold := nomatch htold.symm.trans hmissing
  read _ := by
    refine ⟨reply, after, hread, fun _ => ⟨rfl, hleft⟩, fun found hfound => ?_⟩
    cases hcounted.symm.trans hfound
  others := by rw [hleft]
  changes := by rw [hleft]; exact Cache.changesAt_refl _ _

theorem comesTo_of_unsigned (hread : outcome (host.read path) asked = (.ok reply, after))
    (hcounted : counted reply = some stats) (hleft : session left = before) :
    ComesTo session host path before none asked stats left where
  told known htold := nomatch htold
  read _ := by
    refine ⟨reply, after, hread, fun hnone => ?_, fun found hfound => ?_⟩
    · cases hcounted.symm.trans hnone
    · exact ⟨Option.some_inj.1 (hcounted.symm.trans hfound), fun _ => hleft, nofun⟩
  others := by rw [hleft]
  changes := by rw [hleft]; exact Cache.changesAt_refl _ _

theorem comesTo_of_stored {cache : Cache} (hcache : before.cache = some cache) {text time : String}
    (hmissing : Cache.tells? before.cache path.text text = none)
    (hread : outcome (host.read path) asked = (.ok reply, after))
    (hcounted : counted reply = some stats)
    (hleft : session left = before.mapCache (·.store path.text text stats time)) :
    ComesTo session host path before (some text) asked stats left where
  told known htold := nomatch htold.symm.trans hmissing
  read _ := by
    refine ⟨reply, after, hread, fun hnone => ?_, fun found hfound => ?_⟩
    · cases hcounted.symm.trans hnone
    · obtain rfl := Option.some_inj.1 (hcounted.symm.trans hfound)
      refine ⟨rfl, nofun, fun signed hsigned => ?_⟩
      obtain rfl := Option.some_inj.1 hsigned
      rw [hleft, Session.mapCache, hcache]
      exact Cache.get?_store cache path.text text stats time
  others := by rw [hleft]; rfl
  changes := by rw [hleft]; exact Cache.changesAt_store _ path.text text stats time

end ComesTo

end ScriptFile

namespace Host.OnlyRefuses

open ScriptFile

/-! ## Single requests -/

theorem outcome_possible {program : Program Failure σ (Except FileError α)} {state left : σ}
    {reply : Except FileError α} (h : outcome program state = (.ok reply, left))
    (hreply : IsGrantedOrRefused reply) :
    outcome (do Session.possible (← program)) state = (.ok reply, left) := by
  rw [outcome_bind_ok h]
  cases reply with
  | ok a => rfl
  | error e =>
    rw [Session.possible, if_pos (hreply e rfl)]
    rfl

variable [MonadStateOf Session (Program Failure σ)] {session : σ → Session}
  {host : Host (Program Failure σ)} (h : OnlyRefuses session host) (path : Path) (state : σ)
include h

theorem exists_outcome_note (record : LogRecord) (a : α) : ∃ left,
    outcome (host.log record) state = (.ok (), left) ∧
      outcome ((do Job.send (.note record); return a : Job α).run (Session.answer host)) state =
        (.ok a, left) ∧ session left = session state := by
  obtain ⟨_, left, hlog, hleft, -⟩ := h.log record state
  have hanswer : outcome (Session.answer host (.note record)) state = (.ok (), left) := hlog
  exact ⟨left, hlog, Job.outcome_run_send hanswer _, hleft⟩

theorem exists_outcome_signature : ∃ reply asked,
    outcome (host.signature path) state = (.ok reply, asked) ∧
      outcome ((ScriptFile.signature path).run (Session.answer host)) state =
        (.ok (reply.toOption.map Signature.text), asked) ∧ session asked = session state := by
  obtain ⟨reply, asked, hsignature, hasked, hreply⟩ := h.signature path state
  have hanswer : outcome (Session.answer host (.signature path)) state = (.ok reply, asked) :=
    outcome_possible hsignature hreply
  refine ⟨reply, asked, hsignature, ?_, hasked⟩
  rw [ScriptFile.signature, Job.outcome_run_send hanswer]
  cases reply <;> rfl

/-- A file is read once. It is not counted if it is refused or holds no text. -/
theorem exists_outcome_readStats : ∃ reply after left,
    outcome (host.read path) state = (.ok reply, after) ∧
      outcome ((readStats path).run (Session.answer host)) state = (.ok (counted reply), left) ∧
        session left = session state := by
  obtain ⟨reply, after, hread, hafter, hreply⟩ := h.read path state
  have hanswer : outcome (Session.answer host (.read path)) state = (.ok reply, after) :=
    outcome_possible hread hreply
  rw [readStats, Job.outcome_run_send hanswer]
  cases reply with
  | error e =>
    obtain ⟨left, -, hnoted, hleft⟩ := h.exists_outcome_note after _ (none : Option FileStats)
    exact ⟨_, _, left, hread, hnoted, hleft.trans hafter⟩
  | ok bytes =>
    refine ⟨.ok bytes, after, ?_⟩
    dsimp only [counted, Except.toOption, Option.bind_some]
    cases Script.decode bytes with
    | error fault =>
      obtain ⟨left, -, hnoted, hleft⟩ := h.exists_outcome_note after _ (none : Option FileStats)
      exact ⟨left, hread, hnoted, hleft.trans hafter⟩
    | ok text => exact ⟨after, hread, rfl, hafter⟩

theorem outcome_lookUp (key text : String) :
    outcome (Session.answer host (.lookUp key text)) state =
      (.ok (Cache.tells? (session state).cache key text), state) := by
  rw [Session.answer, outcome_bind_ok (h.getSession state)]
  rfl

theorem exists_outcome_remember (key text : String) (stats : FileStats) : ∃ time left,
    outcome (Session.answer host (.remember key text stats)) state = (.ok (), left) ∧
      session left = (session state).mapCache (·.store key text stats time) := by
  obtain ⟨time, timed, htime, htimed, -⟩ := h.time state
  obtain ⟨left, hstored, hleft⟩ := h.mapSession (Session.mapCache (·.store key text stats time)) timed
  refine ⟨time, left, ?_, by rw [hleft, htimed]⟩
  rw [Session.answer, outcome_bind_ok htime]
  exact hstored

/-! ## A script -/

/-- Without a cache or a signature the script is counted, and nothing is remembered. -/
theorem exists_comesTo_freshStats : ∃ stats left,
    outcome ((freshStats path).run (Session.answer host)) state = (.ok stats, left) ∧
      ComesTo session host path (session state) none state stats left := by
  obtain ⟨reply, after, left, hread, hstats, hleft⟩ := h.exists_outcome_readStats path state
  rw [freshStats, Job.outcome_run_bind hstats]
  refine ⟨_, left, rfl, ?_⟩
  cases hcounted : counted reply with
  | none => exact comesTo_of_uncounted rfl hread hcounted hleft
  | some stats => exact comesTo_of_unsigned hread hcounted hleft

section Signed

variable {path state} {asked : σ} {text : String}
  (hsigned : outcome ((ScriptFile.signature path).run (Session.answer host)) state =
    (.ok (some text), asked))
include hsigned

theorem exists_comesTo_of_told {stats : FileStats}
    (htold : Cache.tells? (session asked).cache path.text text = some stats) : ∃ left,
    outcome ((cachedStats path).run (Session.answer host)) state = (.ok stats, left) ∧
      ComesTo session host path (session asked) (some text) asked stats left := by
  obtain ⟨left, hlog, hnoted, hleft⟩ := h.exists_outcome_note asked (reuse path) stats
  have hfound := h.outcome_lookUp asked path.text text
  rw [htold] at hfound
  rw [cachedStats, Job.outcome_run_bind hsigned, Job.outcome_run_send hfound]
  exact ⟨left, hnoted, comesTo_of_told htold hlog hleft⟩

theorem exists_comesTo_of_missing {cache : Cache} (hcache : (session asked).cache = some cache)
    (hmissing : Cache.tells? (session asked).cache path.text text = none) : ∃ stats left,
    outcome ((cachedStats path).run (Session.answer host)) state = (.ok stats, left) ∧
      ComesTo session host path (session asked) (some text) asked stats left := by
  obtain ⟨reply, after, left, hread, hstats, hleft⟩ := h.exists_outcome_readStats path asked
  have hfound := h.outcome_lookUp asked path.text text
  rw [hmissing] at hfound
  rw [cachedStats, Job.outcome_run_bind hsigned, Job.outcome_run_send hfound,
    Job.outcome_run_bind hstats]
  cases hcounted : counted reply with
  | none => exact ⟨{}, left, rfl, comesTo_of_uncounted hmissing hread hcounted hleft⟩
  | some stats =>
    obtain ⟨time, stored, hstored, hsession⟩ := h.exists_outcome_remember left path.text text stats
    rw [Job.outcome_run_send hstored]
    rw [hleft] at hsession
    exact ⟨stats, stored, rfl, comesTo_of_stored hcache hmissing hread hcounted hsession⟩

end Signed

/-- The analysis of a script comes to statistics whatever the files reply, and what it does to the cache
depends on no more than the signature, what the cache tells under it and what is read. -/
theorem exists_outcome_stats : ∃ signature asked stats left,
    Signs host path state (session state).cache signature asked ∧
      outcome ((ScriptFile.stats (session state).cache.isSome path).run (Session.answer host)) state =
        (.ok stats, left) ∧
      ComesTo session host path (session state) signature asked stats left := by
  cases hcache : (session state).cache with
  | none =>
    obtain ⟨stats, left, hstats, hcomes⟩ := h.exists_comesTo_freshStats path state
    exact ⟨none, state, stats, left, ⟨rfl, rfl⟩, hstats, hcomes⟩
  | some cache =>
    obtain ⟨reply, asked, hreply, hsigned, hasked⟩ := h.exists_outcome_signature path state
    -- Taking the signature leaves the session alone, so it is the same cache that is asked next.
    rw [← hasked] at hcache ⊢
    refine ⟨reply.toOption.map Signature.text, asked, ?_⟩
    rw [ScriptFile.stats, Option.isSome_some, if_pos rfl]
    cases hsignature : reply.toOption.map Signature.text with
    | none =>
      rw [hsignature] at hsigned
      obtain ⟨stats, left, hstats, hcomes⟩ := h.exists_comesTo_freshStats path asked
      refine ⟨stats, left, ⟨reply, hreply, hsignature.symm⟩, ?_, hcomes⟩
      rw [cachedStats, Job.outcome_run_bind hsigned]
      exact hstats
    | some text =>
      rw [hsignature] at hsigned
      cases htold : Cache.tells? (session asked).cache path.text text with
      | none =>
        obtain ⟨stats, left, hstats, hcomes⟩ := h.exists_comesTo_of_missing hsigned hcache htold
        exact ⟨stats, left, ⟨reply, hreply, hsignature.symm⟩, hstats, hcomes⟩
      | some stats =>
        obtain ⟨left, hstats, hcomes⟩ := h.exists_comesTo_of_told hsigned htold
        exact ⟨stats, left, ⟨reply, hreply, hsignature.symm⟩, hstats, hcomes⟩

end Host.OnlyRefuses

/-! ## Files in memory -/

namespace MemoryWorld

theorem isGrantedOrRefused_ok (a : α) : IsGrantedOrRefused (.ok a) :=
  nofun

theorem isGrantedOrRefused_refused (reason : String) :
    IsGrantedOrRefused (.error (.refused reason) : Except FileError α) := by
  rintro _ ⟨⟩
  rfl

theorem isGrantedOrRefused_read (files : MemoryFiles) (path : Path) :
    IsGrantedOrRefused (files.read path) := by
  rw [MemoryFiles.read]
  split
  · exact isGrantedOrRefused_refused _
  · split
    · exact isGrantedOrRefused_ok _
    · exact isGrantedOrRefused_refused _

theorem isGrantedOrRefused_signature (files : MemoryFiles) (path : Path) :
    IsGrantedOrRefused (files.signature path) := by
  rw [MemoryFiles.signature]
  split
  · exact isGrantedOrRefused_refused _
  · split
    · exact isGrantedOrRefused_ok _
    · exact isGrantedOrRefused_refused _

theorem onlyRefuses_plainHost : plainHost.OnlyRefuses session where
  getSession _ := rfl
  mapSession _ _ := ⟨_, rfl, rfl⟩
  read path world := ⟨_, _, rfl, rfl, isGrantedOrRefused_read world.files path⟩
  signature path world := ⟨_, _, rfl, rfl, isGrantedOrRefused_signature world.files path⟩
  time _ := ⟨_, _, rfl, rfl, trivial⟩
  log _ _ := ⟨_, _, rfl, rfl, trivial⟩

def onlyScript : Path := ⟨.here, ["a"]⟩

/-- A world in which there is nothing but a script. -/
def holding (cache : Cache) (bytes : Bytes) : MemoryWorld where
  files := .ofEntries [⟨onlyScript, .file bytes true, none, none, none⟩]
  disk := {}
  session := { root := ⟨.here, []⟩, settings := { root := ⟨.here, []⟩ }, cache := some cache }
  settings root := .ok { root }

/-- A script that is read is remembered, one that is no text is not, and what is remembered already is
not even read. -/
theorem exists_outcome_stats_holding : plainHost.OnlyRefuses session ∧
    (∃ left, outcome ((ScriptFile.stats true onlyScript).run (Session.answer plainHost))
        (holding ⟨none, ∅, false⟩ [64]) = (.ok (Script.stats ['@']), left) ∧
      Cache.tells? left.session.cache "a" "1:1" = some (Script.stats ['@'])) ∧
    (∃ left, outcome ((ScriptFile.stats true onlyScript).run (Session.answer plainHost))
        (holding ⟨none, ∅, false⟩ [0xFF]) = (.ok {}, left) ∧
      left.session = (holding ⟨none, ∅, false⟩ [0xFF]).session) ∧
    ∃ left, outcome ((ScriptFile.stats true onlyScript).run (Session.answer plainHost))
        (holding (.store ⟨none, ∅, false⟩ "a" "1:1" { scriptLines := .number 7 } "") [64]) =
          (.ok { scriptLines := .number 7 }, left) ∧ left.reads = [] := by
  have hcomes (cache : Cache) (bytes : Bytes) : ∃ stats left,
      outcome ((ScriptFile.stats true onlyScript).run (Session.answer plainHost))
        (holding cache bytes) = (.ok stats, left) ∧
      ScriptFile.ComesTo session plainHost onlyScript (holding cache bytes).session
        (some (Signature.text ⟨bytes.length, 1⟩)) (holding cache bytes) stats left := by
    obtain ⟨signature, asked, stats, left, ⟨reply, hreply, rfl⟩, hstats, hcomes⟩ :=
      onlyRefuses_plainHost.exists_outcome_stats onlyScript (holding cache bytes)
    have hsignature : outcome (plainHost.signature onlyScript) (holding cache bytes) =
      (.ok (.ok ⟨bytes.length, 1⟩), holding cache bytes) := rfl
    obtain ⟨hsame, rfl⟩ := Prod.mk.inj (hsignature.symm.trans hreply)
    obtain rfl := Except.ok.inj hsame
    exact ⟨stats, left, hstats, hcomes⟩
  have hempty : Cache.tells? (some ⟨none, ∅, false⟩) "a" "1:1" = none := by
    rw [Cache.tells?, Option.bind_some, Cache.get?, Std.ExtTreeMap.getElem?_empty]
    rfl
  have hread (cache : Cache) (bytes : Bytes) :
      (outcome (plainHost.read onlyScript) (holding cache bytes)).1 = .ok (.ok bytes) := rfl
  refine ⟨onlyRefuses_plainHost, ?_, ?_, ?_⟩
  · obtain ⟨stats, left, hstats, hcomes⟩ := hcomes ⟨none, ∅, false⟩ [64]
    obtain ⟨reply, after, hreply, -, hfound⟩ := hcomes.read hempty
    have hcounted : ScriptFile.counted reply = some (Script.stats ['@']) := by
      have hbytes := hread ⟨none, ∅, false⟩ [64]
      rw [hreply] at hbytes
      rw [Except.ok.inj hbytes]
      rfl
    obtain ⟨rfl, -, htold⟩ := hfound _ hcounted
    exact ⟨left, hstats, htold _ rfl⟩
  · obtain ⟨stats, left, hstats, hcomes⟩ := hcomes ⟨none, ∅, false⟩ [0xFF]
    obtain ⟨reply, after, hreply, hnone, -⟩ := hcomes.read hempty
    have hcounted : ScriptFile.counted reply = none := by
      have hbytes := hread ⟨none, ∅, false⟩ [0xFF]
      rw [hreply] at hbytes
      rw [Except.ok.inj hbytes]
      rfl
    obtain ⟨rfl, hleft⟩ := hnone hcounted
    exact ⟨left, hstats, hleft⟩
  · obtain ⟨stats, left, hstats, hcomes⟩ :=
      hcomes (.store ⟨none, ∅, false⟩ "a" "1:1" { scriptLines := .number 7 } "") [64]
    have htold := Cache.get?_store ⟨none, ∅, false⟩ "a" "1:1" { scriptLines := .number 7 } ""
    obtain ⟨rfl, -, hlog⟩ := hcomes.told { scriptLines := .number 7 } htold
    refine ⟨left, hstats, ?_⟩
    rw [← (Prod.mk.inj hlog).2]
    rfl

end MemoryWorld

end ScriptStats
