import ScriptStats.Proofs.Session.Journal
import ScriptStats.Proofs.Session.Turn
import Mathlib.Logic.Function.Basic

/-!
# Overlapping refreshes

Any number of refreshes of one session are under way and take their steps in any order. A refresh
that is asked for while the file system answers another one begins, steps and returns before that
one takes its next step. What the world is like at a step, and what else becomes of the settings,
the caches and the disk in between, is arbitrary.
-/

namespace ScriptStats

open Program Journal RefreshEvent

structure Overlap where
  desk : Desk
  /-- The refreshes under way. -/
  running : Nat → Option RefreshPhase := fun _ => none
  journal : Journal := []

namespace Overlap

inductive Step where
  /-- A refresh begins if the workspace is there. -/
  | begin (moment : Moment)
  /-- The refresh of that number takes its next step. -/
  | advance (moment : Moment) (generation : Nat)
  /-- A call of the file system fails, and the refresh that made it comes to nothing. -/
  | abandon (generation : Nat) (failure : Failure)
  /-- The session gets other settings and gives up its cache for another one, or for none. -/
  | resettle (settings : Settings) (cache : Option Cache)
  /-- Somebody else makes another one of the cache of that number. -/
  | recache (number : Nat) (cache : Cache)
  /-- Somebody else changes the disk. -/
  | edit (disk : Disk)

end Overlap

namespace RefreshTurn

def phase? : RefreshTurn → Option RefreshPhase
  | goesOn phase => some phase
  | returns _ => none

/-- What there is to be told of a turn, the latest first. -/
def events (generation : Nat) : RefreshTurn → Journal
  | goesOn (.storing snapshot) => [.finished generation (some snapshot)]
  | goesOn _ => []
  | returns none => [.returned generation (.ok none), .finished generation none]
  | returns (some snapshot) => [.returned generation (.ok (some snapshot))]

end RefreshTurn

namespace Overlap

/-- The step of the refresh of that number has come to an end. -/
def turn (scene : Overlap) (generation : Nat) : Except Failure RefreshTurn × Desk → Overlap
  | (.ok turn, desk) =>
    { desk
      running := Function.update scene.running generation turn.phase?
      journal := turn.events generation ++ scene.journal }
  | (.error failure, desk) =>
    { desk
      running := Function.update scene.running generation none
      journal := .returned generation (.error failure) :: scene.journal }

def step (depth : Nat) (scene : Overlap) : Step → Overlap
  | .begin moment =>
    match outcome (Session.enter (moment.host depth)) scene.desk with
    | (.ok (generation, settings), desk) =>
      { desk
        running := Function.update scene.running generation (some (.opening settings))
        journal := .began generation :: scene.journal }
    | (.error _, desk) => { scene with desk }
  | .advance moment generation =>
    match scene.running generation with
    | some phase =>
      scene.turn generation
        (outcome (Session.advance (moment.host depth) generation phase) scene.desk)
    | none => scene
  | .abandon generation failure =>
    match scene.running generation with
    | some _ => scene.turn generation (.error failure, scene.desk)
    | none => scene
  | .resettle settings cache =>
    { scene with
      desk := { scene.desk with session := { scene.desk.session.replaceCache cache with settings } } }
  | .recache number cache =>
    { scene with
      desk := { scene.desk with session := scene.desk.session.mapCacheAt number fun _ => cache } }
  | .edit disk => { scene with desk := { scene.desk with disk } }

/-- The number of the refresh that takes the step. -/
def Step.refresh? (scene : Overlap) : Step → Option Nat
  | begin _ => some (scene.desk.session.generation + 1)
  | advance _ generation => some generation
  | abandon generation _ => some generation
  | _ => none

def run (depth : Nat) (scene : Overlap) (steps : List Step) : Overlap :=
  steps.foldl (step depth) scene

theorem run_append (depth : Nat) (scene : Overlap) (first second : List Step) :
    run depth scene (first ++ second) = run depth (run depth scene first) second :=
  List.foldl_append

/-- What holds of the refreshes of a session at any time. -/
structure Sound (scene : Overlap) : Prop where
  inOrder : scene.journal.InOrder
  began_iff : ∀ generation, began generation ∈ scene.journal ↔
    0 < generation ∧ generation ≤ scene.desk.session.generation
  snapshot_eq : scene.desk.session.snapshot = scene.journal.published.head?
  began : ∀ {generation phase}, scene.running generation = some phase →
    began generation ∈ scene.journal
  finished : ∀ {generation snapshot}, scene.running generation = some (.storing snapshot) →
    finished generation (some snapshot) ∈ scene.journal
  unfinished : ∀ {generation phase}, scene.running generation = some phase →
    (∀ snapshot, phase ≠ .storing snapshot) → ∀ result, .finished generation result ∉ scene.journal

namespace Sound

variable {scene : Overlap} {generation : Nat} (h : scene.Sound)
include h

theorem le_generation {other : Nat} (hother : .began other ∈ scene.journal) :
    other ≤ scene.desk.session.generation :=
  ((h.began_iff other).1 hother).2

/-- The latest refresh is the one that bears the number of the session. -/
theorem newest_iff (hbegan : .began generation ∈ scene.journal) :
    (∀ other, .began other ∈ scene.journal → other ≤ generation) ↔
      generation = scene.desk.session.generation := by
  have hle := h.le_generation hbegan
  constructor
  · intro hnewest
    have hpos := ((h.began_iff generation).1 hbegan).1
    refine Nat.le_antisymm hle (hnewest _ ((h.began_iff _).2 ⟨?_, le_rfl⟩))
    omega
  · rintro rfl other hother
    exact h.le_generation hother

/-- A refresh that has not finished may go on or come to an end. -/
theorem setPhase {desk : Desk} {phase? : Option RefreshPhase}
    (hsnapshot : desk.session.snapshot = scene.desk.session.snapshot)
    (hgeneration : desk.session.generation = scene.desk.session.generation)
    (hphase : ∀ phase ∈ phase?, .began generation ∈ scene.journal ∧
      (∀ snapshot, phase ≠ .storing snapshot) ∧ ∀ result, .finished generation result ∉ scene.journal) :
    Sound ⟨desk, Function.update scene.running generation phase?, scene.journal⟩ where
  inOrder := h.inOrder
  began_iff := by
    dsimp only
    rw [hgeneration]
    exact h.began_iff
  snapshot_eq := hsnapshot.trans h.snapshot_eq
  began {other phase} hother := by
    by_cases hsame : other = generation
    · subst hsame
      exact (hphase phase (by simpa using hother)).1
    · exact h.began (by simpa [hsame] using hother)
  finished {other snapshot} hother := by
    by_cases hsame : other = generation
    · subst hsame
      exact absurd rfl ((hphase _ (by simpa using hother)).2.1 snapshot)
    · exact h.finished (by simpa [hsame] using hother)
  unfinished {other phase} hother hstoring := by
    by_cases hsame : other = generation
    · subst hsame
      exact (hphase phase (by simpa using hother)).2.2
    · exact h.unfinished (by simpa [hsame] using hother) hstoring

theorem returned {result : Except Failure (Option Snapshot)}
    (hfits : (RefreshEvent.returned generation result).Fits scene.journal) :
    Sound { scene with journal := .returned generation result :: scene.journal } where
  inOrder := ⟨hfits, h.inOrder⟩
  began_iff := by simpa using h.began_iff
  snapshot_eq := h.snapshot_eq
  began hother := List.mem_cons_of_mem _ (h.began hother)
  finished hother := List.mem_cons_of_mem _ (h.finished hother)
  unfinished hother hstoring := by simpa using h.unfinished hother hstoring

/-- A refresh finishes: it publishes a snapshot if it is the latest, and else nothing. -/
theorem finish {desk : Desk} {phase : RefreshPhase} (result : Option Snapshot)
    (hrunning : scene.running generation = some phase)
    (hphase : ∀ snapshot, phase ≠ .storing snapshot)
    (hnumber : ∀ snapshot ∈ result, snapshot.generation = generation)
    (hresult : result.isSome ↔ generation = scene.desk.session.generation)
    (hsnapshot : desk.session.snapshot = result.or scene.desk.session.snapshot)
    (hgeneration : desk.session.generation = scene.desk.session.generation) :
    Sound ⟨desk, Function.update scene.running generation (result.map .storing),
      .finished generation result :: scene.journal⟩ where
  inOrder := by
    have hbegan := h.began hrunning
    exact ⟨⟨hbegan, h.unfinished hrunning hphase, hnumber,
      hresult.trans (h.newest_iff hbegan).symm⟩, h.inOrder⟩
  began_iff := by
    simp only [List.mem_cons, reduceCtorEq, false_or, hgeneration]
    exact h.began_iff
  snapshot_eq := by
    rw [hsnapshot, h.snapshot_eq]
    cases result <;> rfl
  began {other phase} hother := by
    refine List.mem_cons_of_mem _ ?_
    by_cases hsame : other = generation
    · exact hsame ▸ h.began hrunning
    · exact h.began (by simpa [hsame] using hother)
  finished {other snapshot} hother := by
    by_cases hsame : other = generation
    · subst hsame
      obtain ⟨_, rfl, heq⟩ := Option.map_eq_some_iff.1
        (show result.map RefreshPhase.storing = some (.storing snapshot) by simpa using hother)
      cases heq
      exact List.mem_cons_self
    · exact List.mem_cons_of_mem _ (h.finished (by simpa [hsame] using hother))
  unfinished {other phase} hother hstoring := by
    by_cases hsame : other = generation
    · subst hsame
      obtain ⟨snapshot, -, rfl⟩ := Option.map_eq_some_iff.1
        (show result.map RefreshPhase.storing = some phase by simpa using hother)
      exact absurd rfl (hstoring snapshot)
    · simpa [hsame] using h.unfinished (by simpa [hsame] using hother) hstoring

end Sound

/-! ## What a step preserves -/

namespace Sound

variable {scene : Overlap} {generation : Nat} {depth : Nat} (h : scene.Sound)
include h

/-- A refresh that has come to an end without a result leaves the others as they are. -/
theorem leave {desk : Desk} {result : Except Failure (Option Snapshot)}
    (hsnapshot : desk.session.snapshot = scene.desk.session.snapshot)
    (hgeneration : desk.session.generation = scene.desk.session.generation)
    (hfits : (RefreshEvent.returned generation result).Fits scene.journal) :
    Sound ⟨desk, Function.update scene.running generation none,
      .returned generation result :: scene.journal⟩ :=
  (h.setPhase hsnapshot hgeneration (by simp)).returned hfits

theorem turn {phase : RefreshPhase} {result : Except Failure RefreshTurn} {desk : Desk}
    (hrunning : scene.running generation = some phase)
    (hturned : Session.Turned generation scene.desk desk phase result) :
    (scene.turn generation (result, desk)).Sound := by
  cases hturned with
  | analyses hphase hlearns =>
    refine h.setPhase hlearns.snapshot_eq hlearns.generation_eq fun next hnext => ?_
    obtain rfl := Option.some.inj hnext
    exact ⟨h.began hrunning, by simp, h.unfinished hrunning hphase⟩
  | fails hphase hlearns => exact h.leave hlearns.snapshot_eq hlearns.generation_eq trivial
  | drops hgeneration hdesk =>
    subst hdesk
    have hfinished := h.finish none hrunning (by simp) (by simp)
      (by simpa using hgeneration) rfl rfl
    exact hfinished.returned List.mem_cons_self
  | publishes hgeneration hsnapshot hdesk =>
    subst hdesk
    exact h.finish (some _) hrunning (by simp) (by simp [hsnapshot])
      (by simpa using hgeneration) rfl rfl
  | stores hsession =>
    exact h.leave hsession.snapshot_eq hsession.generation_eq (h.finished hrunning)
  | storingFails hsession => exact h.leave hsession.snapshot_eq hsession.generation_eq trivial

theorem begin {desk : Desk} (settings : Settings)
    (hdesk : desk = { scene.desk with session := scene.desk.session.begin.2 }) :
    Sound ⟨desk, Function.update scene.running (scene.desk.session.generation + 1)
      (some (.opening settings)), .began (scene.desk.session.generation + 1) :: scene.journal⟩ := by
  subst hdesk
  have hunfinished (result : Option Snapshot) :
      .finished (scene.desk.session.generation + 1) result ∉ scene.journal := fun hfinished =>
    Nat.not_succ_le_self _ (h.le_generation (h.inOrder.began_of_finished hfinished))
  refine ⟨⟨fun other hother => Nat.lt_succ_of_le (h.le_generation hother), h.inOrder⟩, fun other => ?_,
    h.snapshot_eq, fun {other phase} hother => ?_, fun {other snapshot} hother => ?_,
    fun {other phase} hother hstoring => ?_⟩
  · simp only [List.mem_cons, began.injEq, h.began_iff, Session.begin]
    omega
  all_goals by_cases hsame : other = scene.desk.session.generation + 1
  · exact hsame ▸ List.mem_cons_self
  · exact List.mem_cons_of_mem _ (h.began (by simpa [hsame] using hother))
  · simp [hsame] at hother
  · exact List.mem_cons_of_mem _ (h.finished (by simpa [hsame] using hother))
  · simpa [hsame] using hunfinished
  · simpa using h.unfinished (by simpa [hsame] using hother) hstoring

theorem step (step : Step) : (scene.step depth step).Sound := by
  cases step with
  | begin moment =>
    rw [Overlap.step]
    rcases Session.outcome_enter moment depth scene.desk with hended | ⟨failure, hended⟩
    · rw [hended]
      exact h.begin _ rfl
    · rw [hended]
      exact h
  | advance moment generation =>
    rw [Overlap.step]
    split
    next phase hrunning => exact h.turn hrunning (Session.turned_advance ..)
    next => exact h
  | abandon generation failure =>
    rw [Overlap.step]
    split
    next => exact h.leave rfl rfl trivial
    next => exact h
  | resettle settings cache => exact ⟨h.inOrder, h.began_iff, h.snapshot_eq, h.began, h.finished, h.unfinished⟩
  | recache number cache =>
    obtain ⟨hand, former, hsession⟩ := Session.exists_mapCacheAt_eq (fun _ => cache) number scene.desk.session
    rw [Overlap.step, hsession]
    exact ⟨h.inOrder, h.began_iff, h.snapshot_eq, h.began, h.finished, h.unfinished⟩
  | edit disk => exact ⟨h.inOrder, h.began_iff, h.snapshot_eq, h.began, h.finished, h.unfinished⟩

theorem run (steps : List Step) : (scene.run depth steps).Sound := by
  induction steps generalizing scene with
  | nil => exact h
  | cons step steps ih => exact ih (h.step step)

end Sound

end Overlap

end ScriptStats
