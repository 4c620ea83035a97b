import ScriptStats.Proofs.Session.Reentrant
import ScriptStats.Session.Memory

/-!
# Refreshes within refreshes

A refresh of a host that starts other refreshes is a run of overlapping refreshes, however deep they
are nested. The files in memory that are overtaken from within are such a host.
-/

namespace ScriptStats

open Program Overlap

variable {σ : Type}

namespace Reentrant

variable {depth : Nat} {desk : σ → Desk} [MonadStateOf Session (Program Failure σ)]
  {host : Host (Program Failure σ)} (h : Reentrant depth desk host)

/-! ## Whole refreshes -/

/-- From a phase on, the refresh is a run at the end of which it returns. -/
def Finishes (depth : Nat) (desk : σ → Desk) (host : Host (Program Failure σ)) (generation : Nat)
    (phase : RefreshPhase) : Prop :=
  ∀ state running journal, running generation = some phase →
    (∀ other, (desk state).session.generation < other → running other = none) →
    ∃ steps events, run depth ⟨desk state, running, journal⟩ steps =
      ⟨desk (outcome (Session.finishFrom host generation phase) state).2,
        Function.update running generation none,
        .returned generation (outcome (Session.finishFrom host generation phase) state).1
          :: (events ++ journal)⟩

include h

/-- A step takes the refresh on to the next phase, or it is the last. -/
theorem finishes_of_advance {generation : Nat} {phase : RefreshPhase}
    (hnext : ∀ state next left, outcome (Session.advance host generation phase) state =
      (.ok (.goesOn next), left) → Finishes depth desk host generation next) :
    Finishes depth desk host generation phase := by
  intro state running journal hrunning hbound
  obtain ⟨mid, hreaches, hended⟩ := h.answers_advance generation phase state
  obtain ⟨steps, events, hrun⟩ := hreaches running journal hbound
  have hturn : ∃ steps events, run depth ⟨desk state, running, journal⟩ steps =
      turn ⟨mid, running, events ++ journal⟩ generation
        ((outcome (Session.advance host generation phase) state).1,
          desk (outcome (Session.advance host generation phase) state).2) := by
    rcases hended with ⟨moment, hmoment⟩ | ⟨failure, hfailure, hleft⟩
    · refine ⟨steps ++ [.advance moment generation], events, ?_⟩
      rw [run_append, hrun]
      simp only [run, List.foldl_cons, List.foldl_nil, step, hrunning, hmoment]
    · refine ⟨steps ++ [.abandon generation failure], events, ?_⟩
      rw [run_append, hrun, hfailure, hleft]
      simp only [run, List.foldl_cons, List.foldl_nil, step, hrunning]
  obtain ⟨steps, events, hrun⟩ := hturn
  have hle := generation_le_run depth ⟨desk state, running, journal⟩ steps
  rw [hrun] at hle
  rw [Session.finishFrom_eq_advance_bind, outcome_bind]
  generalize hstep : outcome (Session.advance host generation phase) state = ended at hrun hle ⊢
  obtain ⟨failure | turn, left⟩ := ended
  · exact ⟨steps, events, hrun⟩
  cases turn with
  | returns result =>
    cases result with
    | none => exact ⟨steps, .finished generation none :: events, hrun⟩
    | some snapshot => exact ⟨steps, events, hrun⟩
  | goesOn next =>
    -- The refresh keeps its number, which is none of those that are still to come.
    have hold : generation ≤ (desk state).session.generation := by
      by_contra hlt
      rw [hbound generation (Nat.lt_of_not_le hlt)] at hrunning
      cases hrunning
    obtain ⟨more, later, hmore⟩ := hnext state next left hstep left
      (Function.update running generation (some next)) _ (Function.update_self ..)
      fun other hother => by
        have hlt : (desk state).session.generation < other := Nat.lt_of_le_of_lt hle hother
        rw [Function.update_of_ne (by omega), hbound other hlt]
    refine ⟨steps ++ more, later ++ (RefreshTurn.goesOn next).events generation ++ events, ?_⟩
    rw [run_append, hrun, turn]
    refine hmore.trans ?_
    rw [Function.update_idem]
    simp only [List.append_assoc]
    rfl

theorem finishes_storing (generation : Nat) (snapshot : Snapshot) :
    Finishes depth desk host generation (.storing snapshot) := by
  refine h.finishes_of_advance fun state next left hadvance => ?_
  have hturned := Session.turned_advance .void depth generation (.storing snapshot) (desk state)
  have hended := (h.mirrors_advance_storing .void generation snapshot).outcome_eq state trivial
  rw [hended, hadvance] at hturned
  cases hturned with
  | analyses hphase => exact absurd rfl (hphase snapshot)

theorem finishes_analysing (generation number : Nat) (job : Job Node) :
    Finishes depth desk host generation (.analysing number job) := by
  induction job with
  | done tree =>
    refine h.finishes_of_advance fun state next left hadvance => ?_
    have hended := (h.mirrors_advance_done .void generation number tree).outcome_eq state trivial
    by_cases hnewest : generation = (desk state).session.generation
    · rw [Session.outcome_advance_done_of_eq tree hnewest, hadvance] at hended
      obtain rfl := RefreshTurn.goesOn.inj (Except.ok.inj (congrArg Prod.fst hended))
      exact h.finishes_storing generation _
    · rw [Session.outcome_advance_done_of_ne tree hnewest, hadvance] at hended
      cases hended
  | ask request next ih =>
    refine h.finishes_of_advance fun state phase left hadvance => ?_
    rw [Session.advance, outcome_bind] at hadvance
    generalize outcome (Session.answerFrom host number request) state = ended at hadvance
    obtain ⟨failure | reply, mid⟩ := ended
    · cases hadvance
    · cases hadvance
      exact ih reply

theorem finishes_opening (generation : Nat) (settings : Settings) :
    Finishes depth desk host generation (.opening settings) := by
  refine h.finishes_of_advance fun state next left hadvance => ?_
  have hturned := Session.turned_advance .void depth generation (.opening settings) (desk state)
  rw [(h.mirrors_advance_opening .void generation settings).outcome_eq state trivial, hadvance]
    at hturned
  cases hturned with
  | analyses => exact h.finishes_analysing generation _ _

/-- A refresh takes its number after what the file system has started, or it never begins. -/
theorem enters (state : σ) : ∃ mid, Reaches depth (desk state) mid ∧
    ((∃ left, outcome (Session.enter host) state =
          (.ok (mid.session.generation + 1, mid.session.settings), left) ∧
        desk left = { mid with session := mid.session.begin.2 }) ∨
      ∃ failure left, outcome (Session.enter host) state = (.error failure, left) ∧
        desk left = mid) := by
  obtain ⟨seated, hget, hseated⟩ := h.outcome_get state
  have hreaches := h.isDirectory (desk state).session.root seated
  rw [Session.enter, outcome_bind_ok hget, outcome_bind]
  generalize outcome (host.isDirectory (desk state).session.root) seated = ended at hreaches ⊢
  obtain ⟨failure | found, asked⟩ := ended
  · exact ⟨desk asked, hseated ▸ hreaches, .inr ⟨failure, asked, rfl, rfl⟩⟩
  refine ⟨desk asked, hseated ▸ hreaches, ?_⟩
  rcases found with e | _ | _
  · exact .inr ⟨_, asked, rfl, rfl⟩
  · exact .inr ⟨_, asked, rfl, rfl⟩
  · obtain ⟨numbered, hget, hnumbered⟩ := h.outcome_get asked
    obtain ⟨left, hset, hleft⟩ := h.outcome_set (desk asked).session.begin.2 numbered
    refine .inl ⟨left, ?_, by rw [hleft, hnumbered]⟩
    dsimp only
    change outcome (do
      let session ← getThe Session
      set session.begin.2
      return (session.begin.1, session.begin.2.settings)) asked = _
    rw [outcome_bind_ok hget, outcome_bind_ok hset]
    rfl

/-- A refresh is a run of overlapping refreshes. If it begins, then the last thing to be told of
the run is that it has returned. -/
theorem refresh (state : σ) {running : Nat → Option RefreshPhase} (journal : Journal)
    (hrunning : ∀ other, (desk state).session.generation < other → running other = none) :
    ∃ steps events, run depth ⟨desk state, running, journal⟩ steps =
        ⟨desk (outcome (Session.refresh host) state).2, running, events ++ journal⟩ ∧
      ((∃ failure, (outcome (Session.enter host) state).1 = .error failure) ∨
        ∃ generation, .began generation ∈ events ∧ events.head? =
          some (.returned generation (outcome (Session.refresh host) state).1)) := by
  obtain ⟨mid, hreaches, hended⟩ := h.enters state
  obtain ⟨steps, events, hrun⟩ := hreaches running journal hrunning
  rw [Session.refresh_eq_enter_bind]
  rcases hended with ⟨entered, henter, hentered⟩ | ⟨failure, left, henter, hleft⟩
  · have hlt := generation_le_run depth ⟨desk state, running, journal⟩ steps
    rw [hrun] at hlt
    have hnumber : running (mid.session.generation + 1) = none :=
      hrunning _ (Nat.lt_succ_of_le hlt)
    obtain ⟨more, later, hmore⟩ := h.finishes_opening (mid.session.generation + 1)
      mid.session.settings entered
      (Function.update running (mid.session.generation + 1) (some (.opening mid.session.settings)))
      (.began (mid.session.generation + 1) :: (events ++ journal)) (Function.update_self ..)
      fun other hother => by
        rw [hentered] at hother
        have hother : mid.session.generation + 1 < other := hother
        have hold : (desk state).session.generation ≤ mid.session.generation := hlt
        rw [Function.update_of_ne (by omega), hrunning other (by omega)]
    rw [outcome_bind_ok henter]
    refine ⟨steps ++ .begin .void :: more,
      _ :: (later ++ .began (mid.session.generation + 1) :: events), ?_,
      .inr ⟨mid.session.generation + 1, by simp, rfl⟩⟩
    have hbegin := @Session.outcome_enter_of_isDirectory depth .void mid rfl
    rw [run_append, hrun, run, List.foldl_cons, step, hbegin, ← hentered]
    refine hmore.trans ?_
    rw [Function.update_idem, Function.update_eq_self_iff.2 hnumber.symm]
    simp only [List.cons_append, List.append_assoc]
  · rw [outcome_bind_error henter, hleft]
    exact ⟨steps, events, hrun, .inl ⟨failure, by rw [henter]⟩⟩

theorem runs_refresh : Runs depth desk (Session.refresh host) := by
  intro state running journal hrunning
  obtain ⟨steps, events, hrun, -⟩ := h.refresh state journal hrunning
  exact ⟨steps, events, hrun⟩

/-- So it is orderly if the session has just begun. -/
theorem orderly_refresh {state : σ} {root : Path} {settings : Settings}
    {extraExcludes : List String} {useCache : Option Bool} {disk : Disk}
    (hfresh : desk state = (fresh root settings extraExcludes useCache disk).desk) :
    ∃ steps, (run depth (fresh root settings extraExcludes useCache disk) steps).desk =
        desk (outcome (Session.refresh host) state).2 ∧
      Orderly depth (fresh root settings extraExcludes useCache disk) steps := by
  obtain ⟨steps, events, hrun⟩ := h.runs_refresh state (fun _ => none) [] fun _ _ => rfl
  rw [hfresh] at hrun
  exact ⟨steps, congrArg Overlap.desk hrun, (sound_fresh ..).orderly depth steps⟩

end Reentrant

/-! ## Files in memory -/

namespace MemoryWorld

/-- The session and the disk of its cache. -/
def desk (world : MemoryWorld) : Desk :=
  ⟨world.session, world.disk⟩

theorem reentrant_plainHost : Reentrant 981 desk plainHost where
  getSession _ _ := ⟨rfl, rfl, fun _ _ => trivial⟩
  setSession _ _ _ := ⟨rfl, rfl, fun _ _ => trivial⟩
  mapSession _ _ _ := ⟨rfl, rfl, fun _ _ => trivial⟩
  isDirectory _ _ := .refl _ _
  list _ _ := .refl _ _
  read _ _ := .refl _ _
  signature _ _ := .refl _ _
  identity _ _ := .refl _ _
  directoryBound _ _ := ⟨_, _, rfl, rfl, trivial⟩
  readCache _ _ _ := ⟨rfl, rfl, fun _ _ => trivial⟩
  writeCache _ _ _ _ := ⟨rfl, rfl, fun _ _ => trivial⟩
  cacheDepth := rfl
  time _ _ := ⟨_, _, rfl, rfl, trivial⟩
  log _ _ _ := ⟨_, _, rfl, rfl, trivial⟩

theorem leaves_modify {f : MemoryWorld → MemoryWorld} (h : ∀ world, desk (f world) = desk world) :
    Leaves ⊤ desk (modifyThe MemoryWorld f : Act PUnit) :=
  fun world _ => ⟨_, f world, rfl, h world, trivial⟩

theorem runs_listReentering (path : Path) : Runs 981 desk (listReentering path) := by
  refine (reentrant_plainHost.list path).bind fun listed => ?_
  have hworld : Leaves ⊤ desk (getThe MemoryWorld : Act MemoryWorld) := fun w _ =>
    ⟨w, w, rfl, rfl, trivial⟩
  refine hworld.runs.bind fun w => ?_
  have hreturn (a : Except FileError (List Entry)) : Runs 981 desk (pure a : Act _) :=
    fun _ => .refl _ _
  split
  next reentry entries _ =>
    split
    next =>
      refine (leaves_modify fun _ => by rfl).runs.bind fun _ => ?_
      refine reentrant_plainHost.runs_refresh.bind fun snapshot => ?_
      exact (leaves_modify fun _ => by rfl).runs.bind fun _ => hreturn _
    next => exact hreturn _
  next => exact hreturn _

/-- What is listed may overtake the refresh that lists it. -/
theorem reentrant_host : Reentrant 981 desk host :=
  { reentrant_plainHost with list := runs_listReentering }

end MemoryWorld

end ScriptStats
