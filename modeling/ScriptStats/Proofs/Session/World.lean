import ScriptStats.Proofs.Session.Call

/-!
# Worlds

A world is the scene of a history: it changes, sessions begin in it, and sessions are called. All
caches in it, those of the sessions and those on the disk, record nothing but what was seen.
-/

namespace ScriptStats

open Program Moment

/-- The world at a moment, the moments before, the disk on which caches are kept and the sessions at
work. -/
structure World where
  moment : Moment
  past : List Moment := []
  disk : Disk
  sessions : List Session := []

/-- What may happen. -/
inductive World.Step where
  /-- The world becomes another one, but for the disk on which caches are kept. -/
  | edit (moment : Moment)
  /-- A file or a whole directory is removed from that disk. -/
  | remove (place : Place)
  | start (root : Path) (extraExcludes : List String) (useCache : Option Bool)
  | call (index : Nat) (call : Call)

namespace World

/-- All moments so far. -/
def seen (world : World) : List Moment :=
  world.moment :: world.past

/-- What a call leaves of a session and the disk. -/
def perform (depth : Nat) (world : World) (session : Session) (call : Call) : Desk :=
  call.leave (world.moment.host depth) ⟨session, world.disk⟩

/-- The session that begins, if it can. -/
def begin? (depth : Nat) (world : World) (root : Path) (extraExcludes : List String)
    (useCache : Option Bool) : Option Session :=
  (outcome (Session.start (world.moment.host depth) root extraExcludes useCache)
    ⟨{ root, settings := { root } }, world.disk⟩).1.toOption

def step (depth : Nat) (world : World) : Step → World
  | .edit moment => { world with moment, past := world.seen }
  | .remove place => { world with disk := world.disk.remove place }
  | .start root extraExcludes useCache =>
    { world with
      sessions := world.sessions ++ (world.begin? depth root extraExcludes useCache).toList }
  | .call index call =>
    match world.sessions[index]? with
    | none => world
    | some session =>
      let desk := world.perform depth session call
      { world with disk := desk.disk, sessions := world.sessions.set index desk.session }

def run (depth : Nat) (world : World) (steps : List Step) : World :=
  steps.foldl (step depth) world

end World

/-- No file on the disk is a cache that keeps anything. -/
def Disk.KeepsNothing (depth : Nat) (disk : Disk) : Prop :=
  disk.EveryFile fun bytes =>
    ∀ entries, Cache.entriesOfBytes depth bytes = .ok entries → entries = ∅

/-- What a session has published since it was `before`. -/
def Session.published? (before after : Session) : Option Snapshot :=
  after.snapshot.filter fun snapshot => before.generation < snapshot.generation

/-! ## More is seen -/

theorem Moment.SoundCache.mono {seen more : List Moment} (h : seen ⊆ more) {cache : Option Cache}
    (hcache : SoundCache seen cache) : SoundCache more cache :=
  fun found hfound => (hcache found hfound).mono fun _ _ _ hrecorded => hrecorded.mono h

theorem SoundBytes.mono {depth : Nat} {seen more : List Moment} (h : seen ⊆ more) {bytes : Bytes}
    (hbytes : SoundBytes depth seen bytes) : SoundBytes depth more bytes :=
  fun entries hread => (hbytes entries hread).mono fun _ _ _ hrecorded => hrecorded.mono h

theorem Moment.SignaturesTell.mono {seen more : List Moment} (h : seen ⊆ more)
    (htell : SignaturesTell more) : SignaturesTell seen :=
  fun f hf g hg => htell f (h hf) g (h hg)

/-! ## The invariant -/

namespace Session

/-- All that a session has at hand is a record, and its snapshot is none to come. -/
structure Sound (seen : List Moment) (session : Session) : Prop where
  cache : SoundCache seen session.cache
  generation_le : ∀ snapshot, session.snapshot = some snapshot →
    snapshot.generation ≤ session.generation

variable {seen more : List Moment} {session ready after : Session} {moment : Moment}

theorem Sound.mono (h : seen ⊆ more) (hsession : session.Sound seen) : session.Sound more :=
  ⟨hsession.cache.mono h, hsession.generation_le⟩

theorem sound_start {host : Host Desk.Act} {root : Path} {extraExcludes : List String}
    {useCache : Option Bool} {desk : Desk}
    (h : (outcome (start host root extraExcludes useCache) desk).1 = .ok session) :
    session.Sound seen := by
  rw [start, outcome_bind, Desk.outcome_required] at h
  cases hroot : (required root.expanded : Except Failure Path) with
  | error e =>
    rw [hroot] at h
    cases h
  | ok root =>
    rw [hroot] at h
    dsimp only at h
    rw [outcome_bind] at h
    cases hsettings : outcome (loadSettings host root) desk with
    | mk result left =>
      rw [hsettings] at h
      cases result with
      | error e => cases h
      | ok settings =>
        obtain rfl := Except.ok.inj h
        exact ⟨(fun _ hcache => by cases hcache), fun _ hsnapshot => by cases hsnapshot⟩

/-- A call keeps the settings or takes new ones, and nothing else of a session. -/
theorem ready?_keeps {call : Call}
    (hready : call.ready? moment session = some ready) :
    ready.snapshot = session.snapshot ∧ ready.generation = session.generation := by
  cases call with
  | refresh =>
    obtain rfl := Option.some_inj.1 hready
    exact ⟨rfl, rfl⟩
  | document => cases hready
  | handle trigger path =>
    cases trigger with
    | configurationChanged =>
      obtain ⟨settings, -, rfl⟩ := Option.map_eq_some_iff.1 hready
      exact ⟨rfl, rfl⟩
    | activeDocumentChanged =>
      obtain rfl := Option.some_inj.1 hready
      exact ⟨rfl, rfl⟩
    | documentSaved =>
      obtain rfl := Option.some_inj.1 hready
      exact ⟨rfl, rfl⟩

theorem Sound.published?_eq_none (h : session.Sound seen)
    (hafter : after.snapshot = session.snapshot) :
    session.published? after = none := by
  rw [published?, hafter, Option.filter_eq_none_iff]
  intro snapshot hsnapshot
  have hle := h.generation_le snapshot hsnapshot
  simpa using hle

/-- What is published is the tree of the workspace at that moment. -/
theorem Refreshed.of_published? (h : Refreshed moment ready after) (hsession : session.Sound seen)
    (hready : ready.snapshot = session.snapshot) {snapshot : Snapshot}
    (hpublished : session.published? after = some snapshot) :
    ∃ tree, moment.isDirectory ready.root = .ok true ∧
      moment.eval (buildTree ready.options false ready.root) = .ok tree ∧
        snapshot = ⟨ready.generation + 1, ready.root, tree⟩ := by
  cases h with
  | missing =>
    rw [hsession.published?_eq_none hready] at hpublished
    cases hpublished
  | failed =>
    rw [hsession.published?_eq_none] at hpublished
    · cases hpublished
    · exact hready
  | @published tree hdirectory htree =>
    obtain ⟨hsome, -⟩ := Option.filter_eq_some_iff.1 hpublished
    exact ⟨tree, hdirectory, htree, (Option.some_inj.1 hsome).symm⟩

/-- After a refresh the snapshot of a session is none to come. -/
theorem Refreshed.generation_le (h : Refreshed moment ready after)
    (hready : ∀ snapshot, ready.snapshot = some snapshot →
      snapshot.generation ≤ ready.generation) {snapshot : Snapshot}
    (hsnapshot : after.snapshot = some snapshot) : snapshot.generation ≤ after.generation := by
  cases h with
  | missing => exact hready snapshot hsnapshot
  | failed => exact (hready snapshot hsnapshot).trans (Nat.le_succ _)
  | published =>
    obtain rfl := Option.some_inj.1 hsnapshot
    exact le_refl _

end Session

/-- All caches record what was seen. -/
structure World.Sound (depth : Nat) (world : World) : Prop where
  disk : world.disk.EveryFile (SoundBytes depth world.seen)
  sessions : ∀ session ∈ world.sessions, session.Sound world.seen

namespace World

variable {depth : Nat} {world : World}

theorem Sound.edit (h : world.Sound depth) (moment : Moment) :
    (world.step depth (.edit moment)).Sound depth := by
  have hsubset : world.seen ⊆ (world.step depth (.edit moment)).seen :=
    List.subset_cons_self moment world.seen
  exact ⟨h.disk.mono fun _ hbytes => hbytes.mono hsubset,
    fun session hsession => (h.sessions session hsession).mono hsubset⟩

theorem Sound.remove (h : world.Sound depth) (place : Place) :
    (world.step depth (.remove place)).Sound depth :=
  ⟨h.disk.remove place, h.sessions⟩

theorem sound_begin? {root : Path} {extraExcludes : List String} {useCache : Option Bool}
    {session : Session} {seen : List Moment}
    (h : world.begin? depth root extraExcludes useCache = some session) : session.Sound seen := by
  unfold begin? at h
  cases hstart : (outcome (Session.start (world.moment.host depth) root extraExcludes useCache)
      ⟨{ root, settings := { root } }, world.disk⟩).1 with
  | error e =>
    rw [hstart] at h
    cases h
  | ok found =>
    rw [hstart] at h
    obtain rfl := Option.some_inj.1 h
    exact Session.sound_start hstart

theorem Sound.start (h : world.Sound depth) (root : Path) (extraExcludes : List String)
    (useCache : Option Bool) :
    (world.step depth (.start root extraExcludes useCache)).Sound depth := by
  refine ⟨h.disk, fun session hsession => ?_⟩
  rcases List.mem_append.1 hsession with hsession | hsession
  · exact h.sessions session hsession
  · exact sound_begin? (Option.mem_toList.1 hsession)

theorem Sound.records (h : world.Sound depth) {session : Session}
    (hsession : session ∈ world.sessions) :
    Desk.Records depth world.seen session ⟨session, world.disk⟩ :=
  ⟨⟨session.cache, session.former, rfl⟩, (h.sessions session hsession).cache, h.disk⟩

theorem Sound.perform (h : world.Sound depth) (htell : SignaturesTell world.seen)
    {session : Session} (hsession : session ∈ world.sessions) (call : Call) :
    (world.perform depth session call).disk.EveryFile (SoundBytes depth world.seen) ∧
      (world.perform depth session call).session.Sound world.seen := by
  obtain ⟨after, hafter, hleft⟩ := Call.leave_records htell List.mem_cons_self
    (h.records hsession) call
  refine ⟨hleft.disk, hleft.cache, ?_⟩
  obtain ⟨cache, former, hleft⟩ := hleft.session_eq
  have hsound := (h.sessions session hsession).generation_le
  change ∀ snapshot, (call.leave _ _).session.snapshot = _ → _ ≤ (call.leave _ _).session.generation
  rw [hleft]
  rcases hafter with rfl | ⟨ready, hready, hrefreshed⟩
  · exact hsound
  · obtain ⟨hsnapshot, hgeneration⟩ := Session.ready?_keeps hready
    refine fun snapshot => hrefreshed.generation_le ?_
    rwa [hsnapshot, hgeneration]

theorem Sound.call (h : world.Sound depth) (htell : SignaturesTell world.seen) (index : Nat)
    (call : Call) : (world.step depth (.call index call)).Sound depth := by
  unfold World.step
  dsimp only
  split
  next => exact h
  next session hsession =>
    have hmem : session ∈ world.sessions := List.mem_of_getElem? hsession
    obtain ⟨hdisk, hafter⟩ := h.perform htell hmem call
    refine ⟨hdisk, fun other hother => ?_⟩
    rcases List.mem_or_eq_of_mem_set hother with hother | rfl
    · exact h.sessions other hother
    · exact hafter

theorem Sound.step (h : world.Sound depth) (htell : SignaturesTell world.seen) (step : Step) :
    (world.step depth step).Sound depth := by
  cases step with
  | edit moment => exact h.edit moment
  | remove place => exact h.remove place
  | start root extraExcludes useCache => exact h.start root extraExcludes useCache
  | call index call => exact h.call htell index call

theorem seen_subset_step (world : World) (step : Step) :
    world.seen ⊆ (world.step depth step).seen := by
  cases step with
  | edit moment => exact List.subset_cons_self moment world.seen
  | remove place => exact List.Subset.refl _
  | start root extraExcludes useCache => exact List.Subset.refl _
  | call index call =>
    unfold World.step
    dsimp only
    split <;> exact List.Subset.refl _

theorem seen_subset_run (depth : Nat) (world : World) (steps : List Step) :
    world.seen ⊆ (world.run depth steps).seen := by
  induction steps generalizing world with
  | nil => exact List.Subset.refl _
  | cons step steps ih =>
    exact List.Subset.trans (seen_subset_step world step) (ih (world.step depth step))

theorem Sound.run (h : world.Sound depth) (steps : List Step)
    (htell : SignaturesTell (world.run depth steps).seen) :
    (world.run depth steps).Sound depth := by
  induction steps generalizing world with
  | nil => exact h
  | cons step steps ih =>
    have hsubset := seen_subset_run depth (world.step depth step) steps
    have hworld := htell.mono (List.Subset.trans (seen_subset_step world step) hsubset)
    exact ih (h.step hworld step) htell

theorem sound_of_keepsNothing {disk : Disk} (h : disk.KeepsNothing depth) (moment : Moment)
    (past : List Moment) : (World.mk moment past disk []).Sound depth := by
  refine ⟨h.mono fun bytes hbytes entries hread => ?_, fun _ hsession => by cases hsession⟩
  rw [hbytes entries hread]
  exact Cache.sound_empty

/-- What a session of a sound world publishes, it publishes without a cache as well. -/
theorem Sound.published?_uncached (h : world.Sound depth) (htell : SignaturesTell world.seen)
    {session : Session} (hsession : session ∈ world.sessions) {call : Call} {snapshot : Snapshot}
    (hpublished : session.published? (world.perform depth session call).session = some snapshot) :
    session.uncached.published? (world.perform depth session.uncached call).session =
      some snapshot := by
  have hsound := h.sessions session hsession
  obtain ⟨after, hafter, hleft⟩ := Call.leave_records htell List.mem_cons_self
    (h.records hsession) call
  obtain ⟨cache, former, hleft⟩ := hleft.session_eq
  have hpublished : session.published? after = some snapshot := by
    rwa [World.perform, hleft] at hpublished
  rcases hafter with rfl | ⟨ready, hready, hrefreshed⟩
  · rw [hsound.published?_eq_none rfl] at hpublished
    cases hpublished
  · obtain ⟨hsnapshot, hgeneration⟩ := Session.ready?_keeps hready
    obtain ⟨tree, hdirectory, htree, rfl⟩ :=
      hrefreshed.of_published? hsound hsnapshot hpublished
    obtain ⟨_, _, huncached⟩ :=
      (Call.uncached_leave_records _ _ _ h.disk hready hdirectory htree).session_eq
    rw [World.perform, huncached]
    refine Option.filter_eq_some_iff.2 ⟨rfl, decide_eq_true ?_⟩
    exact Nat.lt_succ_of_le hgeneration.ge

end World

end ScriptStats
