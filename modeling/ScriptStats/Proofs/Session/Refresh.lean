import ScriptStats.Proofs.Session.Phase
import ScriptStats.Proofs.Session.Records

/-!
# Refreshes with a cache and without

All that a refresh publishes is the tree to which an analysis without a cache comes, and a session
without a cache publishes it as well.
-/

namespace ScriptStats

open Program Moment

/-- What a refresh may make of a session, but for its cache. -/
inductive Session.Refreshed (moment : Moment) (session : Session) : Session → Prop
  | missing : Refreshed moment session session
  | failed : Refreshed moment session { session with generation := session.generation + 1 }
  | published {tree : Node} : moment.isDirectory session.root = .ok true →
      moment.eval (buildTree session.options false session.root) = .ok tree →
      Refreshed moment session
        { session with
          generation := session.generation + 1
          snapshot := some ⟨session.generation + 1, session.root, tree⟩ }

namespace Session

variable {depth : Nat} {seen : List Moment} {session : Session} {moment : Moment}

/-! ## Beginning -/

theorem records_begin {desk : Desk} (h : desk.Records depth seen session) :
    Desk.Records depth seen session.begin.2 { desk with session := desk.session.begin.2 } := by
  obtain ⟨before, former, hsession⟩ := h.session_eq
  exact ⟨⟨before, former, by rw [hsession]; rfl⟩, h.cache, h.disk⟩

theorem outcome_enter_of_isDirectory {desk : Desk}
    (h : moment.isDirectory desk.session.root = .ok true) :
    outcome (enter (moment.host depth)) desk =
      (.ok (desk.session.generation + 1, desk.session.settings),
        { desk with session := desk.session.begin.2 }) := by
  have hdirectory : outcome ((moment.host depth).isDirectory desk.session.root) desk =
      (.ok (.ok true), desk) := congrArg (fun found => (Except.ok found, desk)) h
  rw [enter, outcome_bind_ok (Desk.outcome_get desk), outcome_bind_ok hdirectory]
  rfl

theorem exists_outcome_enter_of_not_isDirectory (depth : Nat) {desk : Desk}
    (h : moment.isDirectory desk.session.root ≠ .ok true) :
    ∃ e, outcome (enter (moment.host depth)) desk = (.error e, desk) := by
  have hdirectory : outcome ((moment.host depth).isDirectory desk.session.root) desk =
      (.ok (moment.isDirectory desk.session.root), desk) := rfl
  rw [enter, outcome_bind_ok (Desk.outcome_get desk), outcome_bind_ok hdirectory]
  cases hfound : moment.isDirectory desk.session.root with
  | error e => exact ⟨_, rfl⟩
  | ok found =>
    cases found
    · exact ⟨_, rfl⟩
    · exact absurd hfound h

theorem outcome_refresh_of_not_isDirectory (depth : Nat) {desk : Desk}
    (h : moment.isDirectory desk.session.root ≠ .ok true) :
    ∃ e, outcome (refresh (moment.host depth)) desk = (.error e, desk) := by
  obtain ⟨e, he⟩ := exists_outcome_enter_of_not_isDirectory depth h
  exact ⟨e, outcome_bind_error he _⟩

section Opened

variable {desk left : Desk} (hdirectory : moment.isDirectory desk.session.root = .ok true)
include hdirectory

/-- Nobody comes in between, so that the settings are still those of the session. -/
theorem outcome_refresh_eq_openCache_bind : outcome (refresh (moment.host depth)) desk =
    outcome (openCache (moment.host depth) >>=
        finishRefresh (moment.host depth) (desk.session.generation + 1) desk.session.settings)
      { desk with session := desk.session.begin.2 } := by
  rw [refresh, outcome_bind_ok (outcome_enter_of_isDirectory hdirectory)]
  dsimp only
  rw [outcome_bind, outcome_bind]
  rfl

theorem outcome_refresh {withCache : Bool}
    (h : outcome (openCache (moment.host depth)) { desk with session := desk.session.begin.2 } =
      (.ok withCache, left)) :
    outcome (refresh (moment.host depth)) desk =
      outcome (finishRefresh (moment.host depth) (desk.session.generation + 1)
        desk.session.settings withCache) left := by
  rw [outcome_refresh_eq_openCache_bind hdirectory, outcome_bind_ok h]

theorem outcome_refresh_of_error {e : Failure}
    (h : outcome (openCache (moment.host depth)) { desk with session := desk.session.begin.2 } =
      (.error e, left)) :
    outcome (refresh (moment.host depth)) desk = (.error e, left) := by
  rw [outcome_refresh_eq_openCache_bind hdirectory, outcome_bind_error h]

end Opened

/-! ## Finishing -/

theorem outcome_finishRefresh_eq (generation : Nat) (withCache : Bool) (desk : Desk) :
    outcome (finishRefresh (moment.host depth) generation desk.session.settings withCache) desk =
      outcome (do
        let tree ← moment.atWork depth (buildTree desk.session.options withCache desk.session.root)
        conclude (moment.host depth) generation tree) desk := by
  rw [finishRefresh_eq, outcome_bind_ok (Desk.outcome_get desk), outcome_bind, outcome_bind,
    Moment.outcome_run_answerFrom]
  rfl

theorem outcome_finishRefresh {desk : Desk} {withCache : Bool} {tree : Node} {cache : Option Cache}
    (h : outcome (moment.atWork depth (buildTree desk.session.options withCache desk.session.root))
      desk = (.ok tree, desk.withCache cache)) :
    outcome (finishRefresh (moment.host depth) desk.session.generation desk.session.settings withCache)
        desk =
      outcome (do
          persistCache (moment.host depth) tree
          noteTotals (moment.host depth)
            (Snapshot.stats ⟨desk.session.generation, desk.session.root, tree⟩)
          return some ⟨desk.session.generation, desk.session.root, tree⟩)
        (Desk.withCache ⟨{ desk.session with
          snapshot := some ⟨desk.session.generation, desk.session.root, tree⟩ }, desk.disk⟩ cache) := by
  have hpublish : publish desk.session.generation tree (desk.withCache cache).session =
      (some ⟨desk.session.generation, desk.session.root, tree⟩, { desk.session with
        cache, snapshot := some ⟨desk.session.generation, desk.session.root, tree⟩ }) := if_pos rfl
  rw [outcome_finishRefresh_eq, outcome_bind_ok h, conclude, outcome_bind_ok (Desk.outcome_get _)]
  dsimp only
  rw [hpublish]
  dsimp only
  rw [outcome_bind_ok (Desk.outcome_set _ _)]
  rfl

theorem outcome_finishRefresh_of_error {generation : Nat} {withCache : Bool} {desk left : Desk}
    {e : Failure}
    (h : outcome (moment.atWork depth (buildTree desk.session.options withCache desk.session.root))
      desk = (.error e, left)) :
    outcome (finishRefresh (moment.host depth) generation desk.session.settings withCache) desk =
      (.error e, left) := by
  rw [outcome_finishRefresh_eq, outcome_bind_error h]

section Records

variable {desk : Desk} (h : desk.Records depth seen session) {withCache : Bool}
include h

theorem finishRefresh_publishes {tree : Node} {cache : Option Cache} (hcache : SoundCache seen cache)
    (htree : outcome (moment.atWork depth
      (buildTree session.options withCache session.root)) desk = (.ok tree, desk.withCache cache)) :
    (outcome (finishRefresh (moment.host depth) session.generation session.settings withCache)
      desk).2.Records
        depth seen { session with snapshot := some ⟨session.generation, session.root, tree⟩ } := by
  have hkept (snapshot : Snapshot) : Keeps (Desk.Records depth seen
      { session with snapshot := some ⟨session.generation, session.root, tree⟩ }) (do
        persistCache (moment.host depth) tree
        noteTotals (moment.host depth) snapshot.stats
        return some snapshot) :=
    (keeps_persistCache tree).bind fun _ => (keeps_noteTotals _).bind fun _ => keeps_pure _
  obtain ⟨before, former, hsession⟩ := h.session_eq
  have hfinish := @outcome_finishRefresh depth moment desk withCache tree cache (by
    rw [hsession]
    exact htree)
  rw [hsession] at hfinish
  dsimp only at hfinish
  rw [hfinish]
  exact hkept _ _ ⟨⟨cache, former, rfl⟩, hcache, h.disk⟩

theorem finishRefresh_records (htell : SignaturesTell seen) (hmoment : moment ∈ seen) :
    (outcome (finishRefresh (moment.host depth) session.generation session.settings withCache)
        desk).2.Records depth seen session ∨
      ∃ tree, moment.eval (buildTree session.options false session.root) = .ok tree ∧
        (outcome (finishRefresh (moment.host depth) session.generation session.settings withCache)
          desk).2.Records depth seen
            { session with snapshot := some ⟨session.generation, session.root, tree⟩ } := by
  have htree : moment.Simulates depth seen _ _ :=
    simulates_buildTree htell hmoment session.options withCache session.root
  obtain ⟨cache, hcache, hleft, hplain⟩ := htree desk h.cache
  cases hended : outcome (moment.atWork depth
    (buildTree session.options withCache session.root)) desk with
  | mk result left =>
    rw [hended] at hleft hplain
    obtain rfl : left = desk.withCache cache := hleft
    cases result with
    | error e =>
      have hfinish : outcome (finishRefresh (moment.host depth) session.generation session.settings
          withCache) desk = (.error e, desk.withCache cache) := by
        obtain ⟨before, former, hsession⟩ := h.session_eq
        have hsettings : session.settings = desk.session.settings := by rw [hsession]
        rw [hsettings]
        refine outcome_finishRefresh_of_error ?_
        rw [hsession]
        exact hended
      rw [hfinish]
      exact .inl (h.withCache hcache)
    | ok tree => exact .inr ⟨tree, hplain tree rfl, finishRefresh_publishes h hcache hended⟩

end Records

/-- Only what a refresh publishes changes, besides the count of refreshes. -/
theorem refresh_records (htell : SignaturesTell seen) (hmoment : moment ∈ seen) {desk : Desk}
    (h : desk.Records depth seen session) : ∃ after, Refreshed moment session after ∧
      (outcome (refresh (moment.host depth)) desk).2.Records depth seen after := by
  obtain ⟨before, former, hsession⟩ := h.session_eq
  by_cases hdirectory : moment.isDirectory desk.session.root = .ok true
  · have hopened := keeps_openCache moment _ (records_begin h)
    cases hended : outcome (openCache (moment.host depth))
        { desk with session := desk.session.begin.2 } with
    | mk result left =>
      rw [hended] at hopened
      cases result with
      | error e =>
        rw [outcome_refresh_of_error hdirectory hended]
        exact ⟨_, .failed, hopened⟩
      | ok withCache =>
        rw [outcome_refresh hdirectory hended, hsession]
        rw [hsession] at hdirectory
        rcases finishRefresh_records hopened htell hmoment with hfinish | hfinish
        · exact ⟨_, .failed, hfinish⟩
        · obtain ⟨tree, htree, hfinish⟩ := hfinish
          exact ⟨_, .published hdirectory htree, hfinish⟩
  · obtain ⟨e, hrefresh⟩ := outcome_refresh_of_not_isDirectory depth hdirectory
    rw [hrefresh]
    exact ⟨session, .missing, h⟩

/-- A refresh whose analysis comes to a tree publishes it. -/
theorem refresh_publishes {desk left : Desk} (h : desk.Records depth seen session)
    (hdirectory : moment.isDirectory session.root = .ok true) {withCache : Bool}
    (hopen : outcome (openCache (moment.host depth))
      { desk with session := desk.session.begin.2 } = (.ok withCache, left))
    {tree : Node} (htree : outcome (moment.atWork depth
      (buildTree session.options withCache session.root)) left = (.ok tree, left)) :
    (outcome (refresh (moment.host depth)) desk).2.Records depth seen
      { session with
        generation := session.generation + 1
        snapshot := some ⟨session.generation + 1, session.root, tree⟩ } := by
  have hopened := keeps_openCache moment _ (records_begin h)
  rw [hopen] at hopened
  obtain ⟨before, former, hsession⟩ := h.session_eq
  have hdirectory' : moment.isDirectory desk.session.root = .ok true := by
    rwa [hsession]
  rw [outcome_refresh hdirectory' hopen, hsession]
  exact finishRefresh_publishes hopened hopened.cache htree

/-! ## Without a cache -/

/-- A session without a cache publishes the tree of its workspace. -/
theorem uncached_refresh_records {desk : Desk} (h : desk.Records depth seen session)
    (henabled : session.cacheEnabled = false) (hcache : desk.session.cache = none)
    (hdirectory : moment.isDirectory session.root = .ok true) {tree : Node}
    (htree : moment.eval (buildTree session.options false session.root) = .ok tree) :
    (outcome (refresh (moment.host depth)) desk).2.Records depth seen
      { session with
        generation := session.generation + 1
        snapshot := some ⟨session.generation + 1, session.root, tree⟩ } := by
  obtain ⟨before, former, hsession⟩ := h.session_eq
  have hopen : outcome (openCache (moment.host depth))
      { desk with session := desk.session.begin.2 } = (.ok false, _) :=
    outcome_openCache_of_not_enabled (by rw [hsession]; exact henabled)
  have hnone : ({ desk with session := desk.session.begin.2 } : Desk).session.cache = none := hcache
  refine refresh_publishes h hdirectory hopen ?_
  rw [outcome_atWork_of_cache_eq_none _ hnone, htree]

end Session

end ScriptStats
