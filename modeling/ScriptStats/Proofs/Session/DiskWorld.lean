import ScriptStats.Proofs.Session.Mirror
import ScriptStats.Proofs.Session.OnDisk
import ScriptStats.Session.OnDisk

/-!
# Sessions on a disk

Until a session writes its cache, the disk stays as it is, and all that the session does is what it does
at the moment that the disk shows.
-/

namespace ScriptStats

open Program

namespace DiskWorld

/-- The session and the disk, on which its cache is as well. -/
def desk (world : DiskWorld) : Desk :=
  ⟨world.session, world.disk⟩

/-- What the session finds. -/
def moment (world : DiskWorld) : Moment :=
  world.disk.moment world.followLinks world.time

/-- The log goes to no file on the disk. -/
def IsQuiet (world : DiskWorld) : Prop :=
  world.logFile = none

/-- The world is a quiet one with that disk, and in all else that the analysis asks for it is like the
other one. -/
structure IsLike (world other : DiskWorld) : Prop where
  quiet : other.IsQuiet
  disk : other.disk = world.disk
  followLinks : other.followLinks = world.followLinks
  time : other.time = world.time

variable {world : DiskWorld} {settings : Disk → Path → Except SettingsFailure Settings}
  {I : DiskWorld → Prop} {α : Type}

theorem outcome_getSession (world : DiskWorld) :
    outcome (getThe Session : Act Session) world = (.ok world.session, world) :=
  rfl

theorem outcome_required {found : Except FileError α} {a : α} (h : found = .ok a)
    (world : DiskWorld) : outcome (Session.required found : Act α) world = (.ok a, world) := by
  rw [h]
  rfl

/-- What is asked of a world that stays as it is. -/
theorem mirrors_ask {f : DiskWorld → α} {a : α} (h : ∀ other, I other → f other = a) :
    Mirrors I I desk (do return f (← getThe DiskWorld) : Act α) (pure a) :=
  fun other hother => ⟨congrArg Except.ok (h other hother), rfl, fun _ _ => hother⟩

theorem leaves_writeRecord (hquiet : ∀ other, I other → other.IsQuiet)
    (hlog : ∀ other log, I other → I { other with log }) (record : LogRecord) :
    Leaves I desk (writeRecord record) := by
  intro other hother
  have hfile : other.logFile = none := hquiet other hother
  have hget : outcome (getThe DiskWorld : Act DiskWorld) other = (.ok other, other) := rfl
  unfold writeRecord
  rw [outcome_bind_ok hget]
  dsimp only
  split
  next =>
    refine ⟨(), { other with log := record :: other.log }, ?_, rfl, hlog other _ hother⟩
    rw [hfile]
    rfl
  next => exact ⟨(), other, rfl, rfl, hother⟩

/-- A session is served as on a desk. -/
theorem seats_host (hquiet : ∀ other, I other → other.IsQuiet)
    (hlog : ∀ other log, I other → I { other with log })
    (hsession : ∀ other session, I other → I { other with session }) :
    Seats I 980 desk (host settings) where
  getSession _ hother := ⟨rfl, rfl, fun _ _ => hother⟩
  setSession session other hother := ⟨rfl, rfl, fun _ _ => hsession other session hother⟩
  mapSession _ other hother := ⟨rfl, rfl, fun _ _ => hsession other _ hother⟩
  readCache _ _ hother := ⟨rfl, rfl, fun _ _ => hother⟩
  cacheDepth := rfl
  log := leaves_writeRecord hquiet hlog

theorem seats_isQuiet : Seats IsQuiet 980 desk (host settings) :=
  seats_host (fun _ h => h) (fun _ _ h => h) fun _ _ h => h

theorem seats_isLike (world : DiskWorld) : Seats world.IsLike 980 desk (host settings) :=
  seats_host (fun _ h => h.quiet) (fun _ _ h => ⟨h.quiet, h.disk, h.followLinks, h.time⟩)
    fun _ _ h => ⟨h.quiet, h.disk, h.followLinks, h.time⟩

theorem mirrors_writeCache (path : Path) (text : RawText) :
    Mirrors IsQuiet IsQuiet desk ((host settings).writeCache path text)
      (Desk.changeDisk (Disk.writeText path text)) :=
  fun _ hquiet => ⟨rfl, rfl, fun _ _ => hquiet⟩

/-! ## The analysis -/

theorem mirrors_answerFrom (world : DiskWorld) (number : Nat) (request : Request) :
    Mirrors world.IsLike world.IsLike desk (Session.answerFrom (host settings) number request)
      (Session.answerFrom (world.moment.host 980) number request) := by
  have hseats := @seats_isLike settings world
  cases request with
  | list path =>
    refine (mirrors_ask fun other h => ?_).bind mirrors_possible
    rw [h.disk, h.followLinks]
    rfl
  | read path =>
    refine (mirrors_ask fun other h => ?_).bind mirrors_possible
    rw [h.disk]
    rfl
  | signature path =>
    refine (mirrors_ask fun other h => ?_).bind mirrors_possible
    rw [h.disk]
    rfl
  | identity path =>
    refine (mirrors_ask fun other h => ?_).bind mirrors_required
    rw [h.disk]
    rfl
  | directoryBound =>
    refine mirrors_ask fun other h => ?_
    rw [h.disk]
    rfl
  | lookUp key signature => exact hseats.getSession.bind fun _ => mirrors_pure _
  | remember key signature stats =>
    exact (mirrors_ask fun other h => h.time).bind fun _ => hseats.mapSession _
  | note record => exact (hseats.log record).mirrors

theorem mirrors_run (world : DiskWorld) (number : Nat) (job : Job α) :
    Mirrors world.IsLike world.IsLike desk (job.run (Session.answerFrom (host settings) number))
      (job.run (Session.answerFrom (world.moment.host 980) number)) := by
  induction job with
  | done a => exact mirrors_pure a
  | ask request next ih => exact (mirrors_answerFrom world number request).bind ih

/-! ## Refreshes -/

theorem mirrors_enter (world : DiskWorld) :
    Mirrors world.IsLike world.IsLike desk (Session.enter (host settings))
      (Session.enter (world.moment.host 980)) := by
  have hseats := @seats_isLike settings world
  refine hseats.getSession.bind fun session => ?_
  refine (mirrors_ask fun other h => ?_).bind fun found => (mirrors_required found).bind fun found => ?_
  · rw [h.disk]
    rfl
  cases found with
  | false => exact mirrors_throw _
  | true =>
    exact hseats.getSession.bind fun session => (hseats.setSession _).bind fun _ => mirrors_pure _

theorem mirrors_conclude (moment : Moment) (generation : Nat) (tree : Node) :
    Mirrors IsQuiet IsQuiet desk (Session.conclude (host settings) generation tree)
      (Session.conclude (moment.host 980) generation tree) := by
  have hseats := @seats_isQuiet settings
  refine hseats.getSession.bind fun session => ?_
  dsimp only
  generalize session.publish generation tree = published
  obtain ⟨snapshot, session⟩ := published
  refine (hseats.setSession session).bind fun _ => ?_
  cases snapshot with
  | none => exact (hseats.mirrors_note moment _ _).bind fun _ => mirrors_pure _
  | some snapshot =>
    refine (hseats.mirrors_persistCache mirrors_writeCache moment tree).bind fun _ => ?_
    exact (hseats.mirrors_noteTotals moment snapshot.stats).bind fun _ => mirrors_pure _

/-- A refresh does what it does at the moment that the disk shows. -/
theorem mirrors_refresh (world : DiskWorld) :
    Mirrors world.IsLike IsQuiet desk (Session.refresh (host settings))
      (Session.refresh (world.moment.host 980)) := by
  have hseats := @seats_isLike settings world
  refine (mirrors_enter world).bind fun ⟨generation, settings⟩ => ?_
  refine (hseats.mirrors_openCacheFor _ settings).bind fun withCache => ?_
  rw [Session.finishRefresh_eq, Session.finishRefresh_eq]
  refine hseats.getSession.bind fun session => ?_
  exact ((mirrors_run world _ _).mono fun _ h => h.quiet).bind (mirrors_conclude _ generation)

theorem outcome_refresh (hquiet : world.IsQuiet) :
    outcome (Session.refresh (world.moment.host 980)) world.desk =
      ((outcome (Session.refresh (host settings)) world).1,
        (outcome (Session.refresh (host settings)) world).2.desk) :=
  (mirrors_refresh world).outcome_eq world ⟨hquiet, rfl, rfl, rfl⟩

end DiskWorld

end ScriptStats
