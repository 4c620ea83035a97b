import ScriptStats.Proofs.Session.Refresh

/-!
# Calls of a session

A call may begin a refresh, possibly with new settings. Whatever it publishes, the same session
would publish without a cache.
-/

namespace ScriptStats

open Program Moment

/-- The settings for `root` with which a session goes on. -/
def Moment.settingsFor (moment : Moment) (root : Path) : Except Failure Settings :=
  match moment.settings root with
  | .ok settings => .ok settings
  | .error (.invalid _) => .ok { root }
  | .error failure => .error (.settings failure)

/-- The same session with the cache disabled. -/
def Session.uncached (session : Session) : Session :=
  { session with useCache := some false, cache := none, former := [] }

/-- What may be asked of a session. -/
inductive Call where
  | refresh
  | handle (trigger : Trigger) (path : Option Path)
  | document (path : Option Path) (text : Option (List Char))

namespace Call

/-- The desk that a call leaves. -/
def leave (host : Host Desk.Act) (desk : Desk) : Call → Desk
  | refresh => (outcome (Session.refresh host) desk).2
  | handle trigger path => (outcome (Session.handle host trigger path) desk).2
  | document path text => (outcome (Session.document host path text) desk).2

/-- The session that a call refreshes, if it comes to that. -/
def ready? (moment : Moment) (session : Session) : Call → Option Session
  | refresh => some session
  | handle .configurationChanged _ =>
    (moment.settingsFor session.root).toOption.map session.reconfigure
  | handle .activeDocumentChanged _ => some session
  | handle .documentSaved _ => some session
  | document _ _ => none

end Call

namespace Session

variable {depth : Nat} {seen : List Moment} {session : Session} {moment : Moment}

/-! ## Making ready -/

theorem outcome_loadSettings (root : Path) (desk : Desk) :
    outcome (loadSettings (moment.host depth) root) desk = (moment.settingsFor root, desk) := by
  have hask : outcome ((moment.host depth).settings root) desk =
      (.ok (moment.settings root), desk) := rfl
  rw [loadSettings, outcome_bind_ok hask, Moment.settingsFor]
  cases moment.settings root with
  | ok settings => rfl
  | error failure => cases failure <;> rfl

/-- New settings empty the hand of a session; if there are none, nothing changes. -/
theorem outcome_reload (moment : Moment) (depth : Nat) (desk : Desk) :
    outcome (reload (moment.host depth)) desk =
      match moment.settingsFor desk.session.root with
      | .ok settings => (.ok settings, { desk with session := desk.session.reconfigure settings })
      | .error e => (.error e, desk) := by
  rw [reload, outcome_bind_ok (Desk.outcome_get desk), outcome_bind, outcome_loadSettings]
  cases moment.settingsFor desk.session.root <;> rfl

theorem keeps_prepare (moment : Moment) {trigger : Trigger} (h : trigger ≠ .configurationChanged)
    (path : Option Path) :
    Keeps (Desk.Records depth seen session) (prepare (moment.host depth) trigger path) := by
  unfold prepare
  split
  next => exact absurd rfl h
  next path =>
    refine (keeps_openCache moment).bind fun enabled => ?_
    split
    · exact keeps_mapCache fun cache hcache => hcache.invalidate _
    · exact keeps_pure _
  next => exact keeps_pure _

theorem prepare_records (trigger : Trigger) (path : Option Path) {desk : Desk}
    (h : desk.Records depth seen session) :
    (∃ ready left, (Call.handle trigger path).ready? moment session = some ready ∧
      outcome (prepare (moment.host depth) trigger path) desk = (.ok (), left) ∧
        left.Records depth seen ready) ∨
      ∃ e left, outcome (prepare (moment.host depth) trigger path) desk = (.error e, left) ∧
        left.Records depth seen session := by
  by_cases htrigger : trigger = .configurationChanged
  · subst htrigger
    obtain ⟨before, former, hsession⟩ := h.session_eq
    have hroot : desk.session.root = session.root := by rw [hsession]
    cases hsettings : moment.settingsFor session.root with
    | error e =>
      have hreload : outcome (reload (moment.host depth)) desk = (.error e, desk) := by
        rw [outcome_reload, hroot, hsettings]
      exact .inr ⟨e, desk, outcome_bind_error hreload _, h⟩
    | ok settings =>
      have hreload : outcome (reload (moment.host depth)) desk =
          (.ok settings, { desk with session := desk.session.reconfigure settings }) := by
        rw [outcome_reload, hroot, hsettings]
      refine .inl ⟨session.reconfigure settings, _, ?_, outcome_bind_ok hreload _, ?_⟩
      · rw [Call.ready?, hsettings]
        rfl
      · exact ⟨⟨none, _, by rw [hsession]; rfl⟩, (fun _ hcache => by cases hcache), h.disk⟩
  · have hkept := keeps_prepare moment htrigger path desk h
    cases hended : outcome (prepare (moment.host depth) trigger path) desk with
    | mk result left =>
      rw [hended] at hkept
      cases result with
      | error e => exact .inr ⟨e, left, rfl, hkept⟩
      | ok =>
        refine .inl ⟨session, left, ?_, rfl, hkept⟩
        cases trigger with
        | configurationChanged => exact absurd rfl htrigger
        | activeDocumentChanged => rfl
        | documentSaved => rfl

theorem outcome_prepare_uncached {trigger : Trigger} {path : Option Path} {ready : Session}
    {disk : Disk} (h : (Call.handle trigger path).ready? moment session = some ready) :
    outcome (prepare (moment.host depth) trigger path) ⟨session.uncached, disk⟩ =
      (.ok (), ⟨ready.uncached, disk⟩) := by
  cases trigger with
  | configurationChanged =>
    obtain ⟨settings, hsettings, rfl⟩ := Option.map_eq_some_iff.1 h
    have hreload := outcome_reload moment depth ⟨session.uncached, disk⟩
    change outcome _ _ = (match moment.settingsFor session.root with
      | .ok settings => (.ok settings, _)
      | .error e => (.error e, _)) at hreload
    cases hfound : moment.settingsFor session.root with
    | error e =>
      rw [hfound] at hsettings
      cases hsettings
    | ok found =>
      rw [hfound] at hsettings hreload
      obtain rfl := Option.some_inj.1 hsettings
      exact outcome_bind_ok hreload _
  | activeDocumentChanged =>
    obtain rfl := Option.some_inj.1 h
    rfl
  | documentSaved =>
    obtain rfl := Option.some_inj.1 h
    cases path with
    | none => rfl
    | some path => exact outcome_bind_ok (outcome_openCache_of_not_enabled rfl) _

theorem outcome_handle {trigger : Trigger} {path : Option Path} {desk left : Desk}
    (h : outcome (prepare (moment.host depth) trigger path) desk = (.ok (), left)) :
    outcome (handle (moment.host depth) trigger path) desk =
      outcome (refresh (moment.host depth)) left := by
  rw [handle, outcome_bind_ok (outcome_note moment depth _ _ desk), outcome_bind_ok h]

theorem outcome_handle_error {trigger : Trigger} {path : Option Path} {desk left : Desk}
    {e : Failure}
    (h : outcome (prepare (moment.host depth) trigger path) desk = (.error e, left)) :
    outcome (handle (moment.host depth) trigger path) desk = (.error e, left) := by
  rw [handle, outcome_bind_ok (outcome_note moment depth _ _ desk), outcome_bind_error h]

/-! ## Documents -/

theorem keeps_atWork {α : Type} {job plain : Job α} (h : moment.Simulates depth seen job plain) :
    Keeps (Desk.Records depth seen session) (moment.atWork depth job) := by
  intro desk hdesk
  obtain ⟨cache, hcache, hleft, -⟩ := h desk hdesk.cache
  rw [hleft]
  exact hdesk.withCache hcache

theorem keeps_document (htell : SignaturesTell seen) (hmoment : moment ∈ seen)
    (path : Option Path) (text : Option (List Char)) :
    Keeps (Desk.Records depth seen session) (document (moment.host depth) path text) := by
  unfold document
  split
  next => exact keeps_pure _
  next => exact keeps_throw _
  next path =>
    change Keeps _ (document (moment.host depth) (some path) none)
    rw [Moment.document_eq]
    exact (keeps_openCache moment).bind fun withCache =>
      keeps_atWork (simulates_stats htell hmoment withCache path)

end Session

namespace Call

variable {depth : Nat} {seen : List Moment} {session : Session} {moment : Moment} {desk : Desk}

theorem records_uncached (session : Session) {disk : Disk}
    (h : disk.EveryFile (SoundBytes depth seen)) :
    Desk.Records depth seen session.uncached ⟨session.uncached, disk⟩ :=
  ⟨⟨none, [], rfl⟩, (fun _ hcache => by cases hcache), h⟩

/-- A call leaves the session as it is, or as a refresh may leave it, and the caches record nothing
but the truth. -/
theorem leave_records (htell : SignaturesTell seen) (hmoment : moment ∈ seen)
    (h : desk.Records depth seen session) (call : Call) :
    ∃ after, (after = session ∨
      ∃ ready, call.ready? moment session = some ready ∧ Session.Refreshed moment ready after) ∧
        (call.leave (moment.host depth) desk).Records depth seen after := by
  cases call with
  | refresh =>
    obtain ⟨after, hafter, hleft⟩ := Session.refresh_records htell hmoment h
    exact ⟨after, .inr ⟨session, rfl, hafter⟩, hleft⟩
  | document path text => exact ⟨session, .inl rfl, Session.keeps_document htell hmoment _ _ _ h⟩
  | handle trigger path =>
    rcases Session.prepare_records trigger path h with
      ⟨ready, left, hready, hprepare, hleft⟩ | ⟨e, left, hprepare, hleft⟩
    · obtain ⟨after, hafter, hrefresh⟩ := Session.refresh_records htell hmoment hleft
      rw [leave, Session.outcome_handle hprepare]
      exact ⟨after, .inr ⟨ready, hready, hafter⟩, hrefresh⟩
    · rw [leave, Session.outcome_handle_error hprepare]
      exact ⟨session, .inl rfl, hleft⟩

/-- Without a cache a call publishes the tree of the workspace that it refreshes. -/
theorem uncached_leave_records (moment : Moment) (session : Session) (call : Call)
    {ready : Session} {tree : Node} {disk : Disk} (hdisk : disk.EveryFile (SoundBytes depth seen))
    (hready : call.ready? moment session = some ready)
    (hdirectory : moment.isDirectory ready.root = .ok true)
    (htree : moment.eval (buildTree ready.options false ready.root) = .ok tree) :
    (call.leave (moment.host depth) ⟨session.uncached, disk⟩).Records depth seen
      { ready.uncached with
        generation := ready.generation + 1
        snapshot := some ⟨ready.generation + 1, ready.root, tree⟩ } := by
  have hrefresh := Session.uncached_refresh_records (records_uncached ready hdisk) rfl rfl
    hdirectory htree
  cases call with
  | document => cases hready
  | refresh =>
    obtain rfl := Option.some_inj.1 hready
    exact hrefresh
  | handle trigger path =>
    rw [leave, Session.outcome_handle (Session.outcome_prepare_uncached hready)]
    exact hrefresh

end Call

end ScriptStats
