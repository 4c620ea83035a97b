import ScriptStats.Proofs.Session.Recorded

/-!
# Analyses with a cache and without

With a cache that records nothing but the truth an analysis comes to the same tree as without one.
It leaves the session and the disk as they are, but for more of the truth in the cache.
-/

namespace ScriptStats.Moment

open Program

variable {α β : Type}

/-- All that the cache of a session, if it has one, records of `seen`. -/
def SoundCache (seen : List Moment) (cache : Option Cache) : Prop :=
  ∀ found, cache = some found → Cache.Sound (Recorded seen) found.entries

variable {moment : Moment} {depth : Nat} {seen : List Moment}

/-- From a sound cache `job` comes to nothing but what `plain` comes to without a memory, and leaves
a sound cache. -/
def Simulates (moment : Moment) (depth : Nat) (seen : List Moment) (job plain : Job α) : Prop :=
  ∀ desk : Desk, SoundCache seen desk.session.cache → ∃ cache, SoundCache seen cache ∧
    (outcome (moment.atWork depth job) desk).2 = desk.withCache cache ∧
      ∀ a, (outcome (moment.atWork depth job) desk).1 = .ok a → moment.eval plain = .ok a

theorem Steady.simulates {job : Job α} (h : moment.Steady depth job) :
    moment.Simulates depth seen job job := by
  intro desk hdesk
  rw [h desk]
  exact ⟨desk.session.cache, hdesk, rfl, fun _ => id⟩

theorem Simulates.congr {job plain other : Job α} (h : moment.Simulates depth seen job plain)
    (heq : moment.eval plain = moment.eval other) : moment.Simulates depth seen job other := by
  intro desk hdesk
  rw [← heq]
  exact h desk hdesk

/-- A first part that comes to something can be left out of the plain job. -/
theorem Simulates.bind_left {job plain : Job α} {next : α → Job β} {plainNext : Job β}
    (h : moment.Simulates depth seen job plain)
    (hnext : ∀ a, moment.eval plain = .ok a → moment.Simulates depth seen (next a) plainNext) :
    moment.Simulates depth seen (job >>= next) plainNext := by
  intro desk hdesk
  obtain ⟨cache, hcache, hleft, hplain⟩ := h desk hdesk
  rw [atWork_bind, outcome_bind]
  generalize outcome (moment.atWork depth job) desk = ended at hleft hplain
  obtain ⟨e | a, left⟩ := ended
  · exact ⟨cache, hcache, hleft, fun _ h => by cases h⟩
  · obtain rfl : left = desk.withCache cache := hleft
    exact hnext a (hplain a rfl) (desk.withCache cache) hcache

theorem Simulates.bind {job plain : Job α} {next plainNext : α → Job β}
    (h : moment.Simulates depth seen job plain)
    (hnext : ∀ a, moment.eval plain = .ok a →
      moment.Simulates depth seen (next a) (plainNext a)) :
    moment.Simulates depth seen (job >>= next) (plain >>= plainNext) := by
  refine h.bind_left fun a ha desk hdesk => ?_
  rw [eval_bind, ha]
  exact hnext a ha desk hdesk

/-! ## Scripts -/

/-- What is looked up is what the cache of the session tells. -/
theorem outcome_lookUp (key text : String) (desk : Desk) :
    outcome (moment.atWork depth (Job.send (.lookUp key text))) desk =
      (.ok (desk.session.cache.bind (·.get? key text)), desk) := by
  rw [atWork_send]
  rfl

section Script

variable (hmoment : moment ∈ seen) {path : Path} {signature : Signature}
  (hsignature : moment.signature path = .ok signature)
include hmoment hsignature

/-- What is remembered is a record. -/
theorem simulates_remember {stats : FileStats} (hstats : moment.stats? path = some stats) :
    moment.Simulates depth seen (Job.send (.remember path.text signature.text stats))
      (pure ()) := by
  intro desk hdesk
  refine ⟨desk.session.cache.map (·.store path.text signature.text stats moment.time), ?_, rfl,
    fun _ _ => rfl⟩
  intro stored hstored
  obtain ⟨cache, hcache, rfl⟩ := Option.map_eq_some_iff.1 hstored
  exact (hdesk cache hcache).store
    ⟨moment, hmoment, path, signature, rfl, rfl, hsignature, hstats⟩ moment.time

/-- What is found are the statistics of the script. -/
theorem simulates_lookUp (htell : SignaturesTell seen) {next : Option FileStats → Job α}
    {plain : Job α} (hmiss : moment.Simulates depth seen (next none) plain)
    (hhit : ∀ stats, moment.stats? path = some stats →
      moment.Simulates depth seen (next (some stats)) plain) :
    moment.Simulates depth seen
      (Job.send (.lookUp path.text signature.text) >>= next) plain := by
  intro desk hdesk
  rw [atWork_bind, outcome_bind, outcome_lookUp]
  cases hfound : desk.session.cache.bind (·.get? path.text signature.text) with
  | none => exact hmiss desk hdesk
  | some stats =>
    obtain ⟨cache, hcache, hget⟩ := Option.bind_eq_some_iff.1 hfound
    have hrecorded := (hdesk cache hcache).get? hget
    exact hhit stats (hrecorded.stats?_eq htell hmoment hsignature) desk hdesk

end Script

theorem simulates_cachedStats (htell : SignaturesTell seen) (hmoment : moment ∈ seen)
    (path : Path) : moment.Simulates depth seen (ScriptFile.cachedStats path)
      (ScriptFile.freshStats path) := by
  refine (steady_signatureText path).simulates.bind_left fun found hfound => ?_
  cases found with
  | none => exact (steady_freshStats path).simulates
  | some text =>
    obtain ⟨signature, hsignature, rfl⟩ := exists_of_eval_signature hfound
    refine simulates_lookUp hmoment hsignature htell ?_ fun stats hstats => ?_
    · refine (steady_readStats path).simulates.bind fun found hfound => ?_
      cases found with
      | none => exact (steady_pure _).simulates
      | some stats =>
        have hstats := stats?_eq_of_eval hfound
        exact (simulates_remember hmoment hsignature hstats).bind_left fun _ _ =>
          (steady_pure stats).simulates
    · refine Simulates.congr ((steady_note _ _ _).bind fun _ => steady_pure stats).simulates ?_
      rw [eval_freshStats hstats]
      rfl

section Cached

variable {desk : Desk} {path : Path} {signature : Signature}
  (hsignature : moment.signature path = .ok signature) {cache : Cache}
  (hcache : desk.session.cache = some cache)
include hsignature

theorem eval_signature : moment.eval (ScriptFile.signature path) = .ok (some signature.text) := by
  rw [ScriptFile.signature, eval_bind, eval_send, answer, hsignature]
  rfl

include hcache

/-- What a cache says under the present signature of a script is believed. -/
theorem outcome_cachedStats_of_get? {stats : FileStats}
    (hget : cache.get? path.text signature.text = some stats) :
    outcome (moment.atWork depth (ScriptFile.cachedStats path)) desk = (.ok stats, desk) := by
  rw [ScriptFile.cachedStats, atWork_bind, outcome_bind, steady_signatureText path desk,
    eval_signature hsignature]
  dsimp only
  rw [atWork_bind, outcome_bind, outcome_lookUp, hcache, Option.bind_some, hget]
  rfl

/-- Where a cache says nothing, the script is read, and what it comes to is remembered. -/
theorem outcome_cachedStats_of_miss {found : Option FileStats}
    (hget : cache.get? path.text signature.text = none)
    (hread : moment.eval (ScriptFile.readStats path) = .ok found) :
    outcome (moment.atWork depth (ScriptFile.cachedStats path)) desk =
      (.ok (found.getD {}), found.elim desk fun stats =>
        desk.withCache (some (cache.store path.text signature.text stats moment.time))) := by
  rw [ScriptFile.cachedStats, atWork_bind, outcome_bind, steady_signatureText path desk,
    eval_signature hsignature]
  dsimp only
  rw [atWork_bind, outcome_bind, outcome_lookUp, hcache, Option.bind_some, hget]
  dsimp only
  rw [atWork_bind, outcome_bind, steady_readStats path desk, hread]
  cases found with
  | none => rfl
  | some stats =>
    change (Except.ok stats, desk.withCache (desk.session.cache.map
      (·.store path.text signature.text stats moment.time))) = _
    rw [hcache]
    rfl

end Cached

theorem simulates_stats (htell : SignaturesTell seen) (hmoment : moment ∈ seen)
    (withCache : Bool) (path : Path) : moment.Simulates depth seen
      (ScriptFile.stats withCache path) (ScriptFile.stats false path) := by
  cases withCache
  · exact (steady_freshStats path).simulates
  · exact simulates_cachedStats htell hmoment path

/-! ## Trees -/

theorem simulates_mapM {items : List α} {job plain : α → Job β}
    (h : ∀ item, moment.Simulates depth seen (job item) (plain item)) :
    moment.Simulates depth seen (items.mapM job) (items.mapM plain) := by
  induction items with
  | nil => exact (steady_pure []).simulates
  | cons item items ih =>
    rw [List.mapM_cons, List.mapM_cons]
    exact (h item).bind fun b _ => ih.bind fun bs _ => (steady_pure (b :: bs)).simulates

theorem simulates_analyze (htell : SignaturesTell seen) (hmoment : moment ∈ seen)
    (withCache : Bool) (listings : List Listing) : moment.Simulates depth seen
      (Aggregation.analyze withCache listings) (Aggregation.analyze false listings) := by
  induction listings with
  | nil => exact (steady_pure []).simulates
  | cons listing listings ih =>
    refine ih.bind fun found _ => Simulates.bind ?_ fun stats _ => (steady_pure _).simulates
    exact simulates_mapM fun entry => simulates_stats htell hmoment withCache entry.path

/-- The tree does not depend on whether there is a cache. -/
theorem simulates_buildTree (htell : SignaturesTell seen) (hmoment : moment ∈ seen)
    (options : WalkOptions) (withCache : Bool) (root : Path) : moment.Simulates depth seen
      (buildTree options withCache root) (buildTree options false root) :=
  (steady_walk options root).simulates.bind fun listings _ =>
    (simulates_analyze htell hmoment withCache listings).bind fun _ _ => (steady_pure _).simulates

end ScriptStats.Moment
