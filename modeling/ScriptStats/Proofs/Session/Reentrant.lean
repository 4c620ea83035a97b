import ScriptStats.Proofs.Session.Mirror
import ScriptStats.Proofs.Session.Orderly

/-!
# Hosts that start refreshes

A file system that is asked for something may start refreshes of the very session that asks. What
such a host does at each step of a refresh is a run of other refreshes and then the step itself.
-/

namespace ScriptStats

open Program

variable {σ α β : Type}

namespace Overlap

/-- There is a run from one desk to the other that leaves the refreshes under way where they are. -/
def Reaches (depth : Nat) (before after : Desk) : Prop :=
  ∀ running journal, (∀ generation, before.session.generation < generation →
      running generation = none) →
    ∃ steps events, run depth ⟨before, running, journal⟩ steps = ⟨after, running, events ++ journal⟩

theorem generation_le_step (depth : Nat) (scene : Overlap) (step : Step) :
    scene.desk.session.generation ≤ (scene.step depth step).desk.session.generation := by
  cases step with
  | begin moment =>
    rw [Overlap.step]
    rcases Session.outcome_enter moment depth scene.desk with hended | ⟨failure, hended⟩
    · rw [hended]
      exact Nat.le_succ _
    · rw [hended]
  | advance moment generation =>
    rw [Overlap.step]
    cases scene.running generation with
    | none => exact Nat.le_refl _
    | some phase =>
      have hturned := Session.turned_advance moment depth generation phase scene.desk
      dsimp only
      generalize outcome (Session.advance (moment.host depth) generation phase) scene.desk = ended
        at hturned ⊢
      obtain ⟨result, desk⟩ := ended
      cases hturned with
      | analyses _ hlearns | fails _ hlearns => exact hlearns.generation_eq.ge
      | drops _ hdesk | publishes _ _ hdesk =>
        exact (congrArg (fun desk : Desk => desk.session.generation) hdesk).ge
      | stores hsession | storingFails hsession => exact hsession.generation_eq.ge
  | abandon generation failure =>
    rw [Overlap.step]
    split <;> exact Nat.le_refl _
  | resettle | edit => exact Nat.le_refl _
  | recache number cache =>
    obtain ⟨hand, former, hsession⟩ :=
      Session.exists_mapCacheAt_eq (fun _ => cache) number scene.desk.session
    rw [Overlap.step, hsession]

theorem generation_le_run (depth : Nat) (scene : Overlap) (steps : List Step) :
    scene.desk.session.generation ≤ (scene.run depth steps).desk.session.generation := by
  induction steps generalizing scene with
  | nil => exact Nat.le_refl _
  | cons step steps ih => exact (generation_le_step depth scene step).trans (ih _)

theorem Reaches.generation_le {depth : Nat} {before after : Desk} (h : Reaches depth before after) :
    before.session.generation ≤ after.session.generation := by
  obtain ⟨steps, events, hrun⟩ := h (fun _ => none) [] fun _ _ => rfl
  have hle := generation_le_run depth ⟨before, fun _ => none, []⟩ steps
  rwa [hrun] at hle

theorem Reaches.refl (depth : Nat) (desk : Desk) : Reaches depth desk desk :=
  fun _ _ _ => ⟨[], [], rfl⟩

theorem Reaches.trans {depth : Nat} {first second third : Desk} (h : Reaches depth first second)
    (h' : Reaches depth second third) : Reaches depth first third := by
  intro running journal hrunning
  obtain ⟨steps, events, hrun⟩ := h running journal hrunning
  obtain ⟨more, later, hmore⟩ := h' running (events ++ journal) fun generation hlt =>
    hrunning generation (h.generation_le.trans_lt hlt)
  exact ⟨steps ++ more, later ++ events, by rw [run_append, hrun, hmore, List.append_assoc]⟩

end Overlap

open Overlap

/-- All that the program does to the desk is a run. -/
def Runs (depth : Nat) (desk : σ → Desk) (program : Program Failure σ α) : Prop :=
  ∀ state, Reaches depth (desk state) (desk (outcome program state).2)

section Runs

variable {depth : Nat} {desk : σ → Desk}

theorem Runs.bind {program : Program Failure σ α} {next : α → Program Failure σ β}
    (h : Runs depth desk program) (hnext : ∀ a, Runs depth desk (next a)) :
    Runs depth desk (program >>= next) := by
  intro state
  have hreaches := h state
  rw [outcome_bind]
  generalize outcome program state = ended at hreaches ⊢
  obtain ⟨failure | a, left⟩ := ended
  · exact hreaches
  · exact hreaches.trans (hnext a left)

theorem Leaves.runs {program : Program Failure σ α} (h : Leaves ⊤ desk program) :
    Runs depth desk program := by
  intro state
  obtain ⟨a, left, hended, hdesk, -⟩ := h state trivial
  rw [hended, hdesk]
  exact .refl depth _

end Runs

/-- A host whose file system may start refreshes whenever it is asked for something. -/
structure Reentrant (depth : Nat) (desk : σ → Desk) [MonadStateOf Session (Program Failure σ)]
    (host : Host (Program Failure σ)) : Prop extends Seats ⊤ depth desk host where
  isDirectory : ∀ path, Runs depth desk (host.isDirectory path)
  list : ∀ path, Runs depth desk (host.list path)
  read : ∀ path, Runs depth desk (host.read path)
  signature : ∀ path, Runs depth desk (host.signature path)
  identity : ∀ path, Runs depth desk (host.identity path)
  directoryBound : Leaves ⊤ desk host.directoryBound
  writeCache : ∀ path text, Mirrors ⊤ ⊤ desk (host.writeCache path text)
    (Desk.changeDisk (Disk.writeText path text))
  time : Leaves ⊤ desk host.time

namespace Reentrant

variable {depth : Nat} {desk : σ → Desk} [MonadStateOf Session (Program Failure σ)]
  {host : Host (Program Failure σ)} (h : Reentrant depth desk host)
include h

theorem outcome_get (state : σ) : ∃ left,
    outcome (getThe Session : Program Failure σ Session) state = (.ok (desk state).session, left) ∧
      desk left = desk state := by
  obtain ⟨hresult, hleft, -⟩ := h.getSession state trivial
  exact ⟨_, Prod.ext hresult rfl, hleft⟩

theorem outcome_set (session : Session) (state : σ) : ∃ left,
    outcome (set session : Program Failure σ PUnit) state = (.ok ⟨⟩, left) ∧
      desk left = { desk state with session } := by
  obtain ⟨hresult, hleft, -⟩ := h.setSession session state trivial
  exact ⟨_, Prod.ext hresult rfl, hleft⟩

/-! ### What is not asked of the file system -/

theorem mirrors_advance_storing (moment : Moment) (generation : Nat) (snapshot : Snapshot) :
    Mirrors ⊤ ⊤ desk (Session.advance host generation (.storing snapshot))
      (Session.advance (moment.host depth) generation (.storing snapshot)) :=
  (h.mirrors_persistCache h.writeCache moment snapshot.tree).bind fun _ =>
    (h.mirrors_noteTotals moment snapshot.stats).bind fun _ => mirrors_pure _

theorem mirrors_advance_done (moment : Moment) (generation number : Nat) (tree : Node) :
    Mirrors ⊤ ⊤ desk (Session.advance host generation (.analysing number (.done tree)))
      (Session.advance (moment.host depth) generation (.analysing number (.done tree))) := by
  refine h.getSession.bind fun session => ?_
  dsimp only
  generalize session.publish generation tree = published
  obtain ⟨snapshot, session⟩ := published
  refine (h.setSession session).bind fun _ => ?_
  cases snapshot with
  | none => exact (h.mirrors_note moment _ _).bind fun _ => mirrors_pure _
  | some snapshot => exact mirrors_pure _

theorem mirrors_advance_opening (moment : Moment) (generation : Nat) (settings : Settings) :
    Mirrors ⊤ ⊤ desk (Session.advance host generation (.opening settings))
      (Session.advance (moment.host depth) generation (.opening settings)) :=
  (h.mirrors_openCacheFor moment settings).bind fun _ => h.getSession.bind fun _ => mirrors_pure _

end Reentrant

/-- A world in which there is nothing. -/
def Moment.void : Moment where
  isDirectory _ := .ok true
  list _ := .ok []
  read _ := .ok []
  signature _ := .ok ⟨0, 0⟩
  identity _ := .ok ""
  directoryBound := 0
  settings root := .ok { root }
  time := ""

/-- The world is asked on the way from one desk to the next, where the plain program is run at a
moment of its own, or a call fails for good. -/
def Answers {α : Type} (depth : Nat) (desk : σ → Desk) (program : Program Failure σ α)
    (plain : Moment → Desk.Act α) : Prop :=
  ∀ state, ∃ mid, Reaches depth (desk state) mid ∧
    ((∃ moment, outcome (plain moment) mid =
        ((outcome program state).1, desk (outcome program state).2)) ∨
      ∃ failure, (outcome program state).1 = .error failure ∧ desk (outcome program state).2 = mid)

section Answers

variable {depth : Nat} {desk : σ → Desk}

theorem answers_of_runs {call : Program Failure σ α} {next : α → Program Failure σ β}
    {plain : Moment → Desk.Act β}
    (hcall : Runs depth desk call)
    (hnext : ∀ a, ∃ moment, Mirrors ⊤ ⊤ desk (next a) (plain moment)) :
    Answers depth desk (call >>= next) plain := by
  intro state
  have hreaches := hcall state
  rw [outcome_bind]
  generalize outcome call state = ended at hreaches ⊢
  obtain ⟨failure | a, left⟩ := ended
  · exact ⟨desk left, hreaches, .inr ⟨failure, rfl, rfl⟩⟩
  · obtain ⟨moment, hmoment⟩ := hnext a
    exact ⟨desk left, hreaches, .inl ⟨moment, hmoment.outcome_eq left trivial⟩⟩

theorem Mirrors.answers {program : Program Failure σ α} {plain : Moment → Desk.Act α}
    (h : ∀ moment, Mirrors ⊤ ⊤ desk program (plain moment)) : Answers depth desk program plain :=
  fun state => ⟨desk state, .refl depth _, .inl ⟨.void, (h .void).outcome_eq state trivial⟩⟩

theorem Answers.bind_pure {program : Program Failure σ α} {plain : Moment → Desk.Act α}
    (h : Answers depth desk program plain) (f : α → β) :
    Answers depth desk (program >>= fun a => pure (f a)) fun moment =>
      plain moment >>= fun a => pure (f a) := by
  intro state
  obtain ⟨mid, hreaches, hended⟩ := h state
  refine ⟨mid, hreaches, ?_⟩
  simp only [outcome_bind]
  generalize outcome program state = ended at hended ⊢
  obtain ⟨result, left⟩ := ended
  rcases hended with ⟨moment, hmoment⟩ | ⟨failure, hfailure, hleft⟩
  · refine .inl ⟨moment, ?_⟩
    rw [hmoment]
    cases result <;> rfl
  · obtain rfl : result = .error failure := hfailure
    exact .inr ⟨failure, rfl, hleft⟩

end Answers

namespace Reentrant

variable {depth : Nat} {desk : σ → Desk} [MonadStateOf Session (Program Failure σ)]
  {host : Host (Program Failure σ)} (h : Reentrant depth desk host)
include h

theorem answers (number : Nat) (request : Request) :
    Answers depth desk (Session.answerFrom host number request)
      fun moment => Session.answerFrom (moment.host depth) number request := by
  cases request with
  | list path =>
    exact answers_of_runs (h.list path) fun listed =>
      ⟨{ Moment.void with list := fun _ => listed }, mirrors_possible listed⟩
  | read path =>
    exact answers_of_runs (h.read path) fun bytes =>
      ⟨{ Moment.void with read := fun _ => bytes }, mirrors_possible bytes⟩
  | signature path =>
    exact answers_of_runs (h.signature path) fun signature =>
      ⟨{ Moment.void with signature := fun _ => signature }, mirrors_possible signature⟩
  | identity path =>
    exact answers_of_runs (h.identity path) fun identity =>
      ⟨{ Moment.void with identity := fun _ => identity }, mirrors_required identity⟩
  | directoryBound =>
    have hbound : Answers depth desk (host.directoryBound >>= fun bound => pure bound) fun moment =>
        Session.answerFrom (moment.host depth) number .directoryBound :=
      answers_of_runs h.directoryBound.runs fun bound =>
        ⟨{ Moment.void with directoryBound := bound }, mirrors_pure bound⟩
    rwa [bind_pure] at hbound
  | lookUp key signature => exact Mirrors.answers fun moment => h.getSession.bind fun _ => mirrors_pure _
  | remember key signature stats =>
    exact answers_of_runs h.time.runs fun time =>
      ⟨{ Moment.void with time }, h.mapSession _⟩
  | note record => exact Mirrors.answers fun moment => (h.log record).mirrors

/-- Each step of a refresh is a step of a run, after what the file system has started. -/
theorem answers_advance (generation : Nat) (phase : RefreshPhase) :
    Answers depth desk (Session.advance host generation phase)
      fun moment => Session.advance (moment.host depth) generation phase := by
  cases phase with
  | opening settings =>
    exact Mirrors.answers fun moment => h.mirrors_advance_opening moment generation settings
  | storing snapshot =>
    exact Mirrors.answers fun moment => h.mirrors_advance_storing moment generation snapshot
  | analysing number job =>
    cases job with
    | done tree =>
      exact Mirrors.answers fun moment => h.mirrors_advance_done moment generation number tree
    | ask request next =>
      exact (h.answers number request).bind_pure fun reply =>
        RefreshTurn.goesOn (.analysing number (next reply))

end Reentrant

end ScriptStats
