import ScriptStats.Proofs.Session.Orderly
import ScriptStats.Proofs.Session.Ready

/-!
# A save while refreshes are under way

A script is written, keeps its signature, and the host tells that it was saved. A refresh that is under
way may have read the old bytes and not have remembered their statistics yet. Then it remembers them
after the cache has forgotten the script, and they are found under a signature that is still good. No
other refresh does any harm, wherever it is, and what goes into a cache that was given up does none.
-/

namespace ScriptStats

open Program Moment

/-- Only a refresh that goes on to store has published. -/
theorem RefreshTurn.eq_of_finished_mem_events {turn : RefreshTurn} {generation other : Nat}
    {snapshot : Snapshot}
    (h : RefreshEvent.finished other (some snapshot) ∈ turn.events generation) :
    other = generation ∧ turn = .goesOn (.storing snapshot) := by
  cases turn with
  | goesOn phase =>
    cases phase with
    | opening | analysing => exact absurd h List.not_mem_nil
    | storing published =>
      obtain ⟨rfl, hsame⟩ := RefreshEvent.finished.inj (List.mem_singleton.1 h)
      exact ⟨rfl, by rw [Option.some_inj.1 hsame]⟩
  | returns result => cases result <;> simp [events] at h

namespace Session

variable {v : Version} {moment : Moment} {depth : Nat} {desk : Desk} {generation : Nat}

/-- How a refresh comes to be analysing. -/
theorem analysing_of_advance {phase : RefreshPhase} {number : Nat} {job : Job Node} {left : Desk}
    (h : outcome (advance (moment.host depth) generation phase) desk =
      (.ok (.goesOn (.analysing number job)), left)) :
    (∃ options withCache root, job = buildTree options withCache root) ∨
      ∃ request next reply, phase = .analysing number (.ask request next) ∧ job = next reply := by
  cases phase with
  | opening settings =>
    rw [advance, outcome_bind] at h
    generalize outcome (openCacheFor (moment.host depth) settings) desk = ended at h
    obtain ⟨e | withCache, opened⟩ := ended
    · cases h
    · cases h
      exact .inl ⟨_, _, _, rfl⟩
  | analysing held analysis =>
    cases analysis with
    | ask request next =>
      rw [advance, outcome_bind] at h
      generalize outcome (answerFrom (moment.host depth) held request) desk = ended at h
      obtain ⟨e | reply, answered⟩ := ended
      · cases h
      · cases h
        exact .inr ⟨request, next, reply, rfl, rfl⟩
    | done tree =>
      by_cases hnewest : generation = desk.session.generation
      · rw [outcome_advance_done_of_eq tree hnewest] at h
        cases h
      · rw [outcome_advance_done_of_ne tree hnewest] at h
        cases h
  | storing snapshot =>
    have hturned := turned_advance moment depth generation (.storing snapshot) desk
    rw [h] at hturned
    cases hturned with
    | analyses hphase => exact absurd rfl (hphase snapshot)

end Session

/-- A refresh in this phase shows the script as it is, provided that it has begun since then, and it
contradicts the script in no cache from the given number on. -/
def RefreshPhase.Shows (v : Version) (base : Nat) (since : Prop) : RefreshPhase → Prop
  | opening _ => True
  | analysing number job =>
    (since → base ≤ number) ∧
      (base ≤ number → job.Meets (v.contract v.fresh) (fun _ tree => since → v.ShownBy tree) ())
  | storing snapshot => since → v.ShownBy snapshot.tree

namespace Session

variable {v : Version} {moment : Moment} {desk : Desk}

/-- As long as the script stays as it is, a step of a refresh leaves the session ready for it and takes
the refresh to a phase that shows it as it is. -/
theorem shows_advance (depth generation : Nat) (hshows : moment.Shows v) {base : Nat}
    (h : desk.Ready v base) {since : Prop} {phase : RefreshPhase} (hphase : phase.Shows v base since) :
    (outcome (advance (moment.host depth) generation phase) desk).2.Ready v base ∧
      ∀ next, (outcome (advance (moment.host depth) generation phase) desk).1 = .ok (.goesOn next) →
        next.Shows v base since := by
  cases phase with
  | opening settings =>
    obtain ⟨withCache, hopen⟩ := @ready_openCacheFor v base moment depth desk h settings
    rw [advance, outcome_bind_ok hopen]
    refine ⟨h, fun next hnext => ?_⟩
    obtain rfl := RefreshTurn.goesOn.inj (Except.ok.inj hnext)
    refine ⟨fun _ => h.base_le, fun _ => ?_⟩
    exact (Job.meets_version_fresh v _ withCache _).mono fun _ _ hshown _ => hshown
  | analysing number job =>
    obtain ⟨hsince, hmeets⟩ := hphase
    cases job with
    | ask request next =>
      obtain ⟨hready, hreply⟩ := ready_answerFrom hshows depth h fun hle => (hmeets hle).1
      rw [advance, outcome_bind]
      generalize outcome (answerFrom (moment.host depth) number request) desk = ended at hready hreply ⊢
      obtain ⟨e | reply, left⟩ := ended
      · exact ⟨hready, fun _ hnext => by cases hnext⟩
      · refine ⟨hready, fun phase hphase => ?_⟩
        obtain rfl := RefreshTurn.goesOn.inj (Except.ok.inj hphase)
        exact ⟨hsince, fun hle => (hmeets hle).2 reply (hreply reply rfl hle)⟩
    | done tree =>
      by_cases hnewest : generation = desk.session.generation
      · rw [outcome_advance_done_of_eq tree hnewest]
        refine ⟨⟨h.isSome, h.base_le, h.knows⟩, fun next hnext => ?_⟩
        obtain rfl := RefreshTurn.goesOn.inj (Except.ok.inj hnext)
        exact fun hnew => hmeets (hsince hnew) hnew
      · rw [outcome_advance_done_of_ne tree hnewest]
        exact ⟨h, fun _ hnext => by cases hnext⟩
  | storing snapshot =>
    have hturned := turned_advance moment depth generation (.storing snapshot) desk
    have hready :
        (outcome (advance (moment.host depth) generation (.storing snapshot)) desk).2.Ready v base :=
      ((keeps_ready_persistCache _).bind fun _ => (keeps_noteTotals _).bind fun _ =>
        keeps_pure _) desk h
    refine ⟨hready, fun next hnext => ?_⟩
    generalize outcome (advance (moment.host depth) generation (.storing snapshot)) desk = ended
      at hturned hnext
    obtain ⟨result, left⟩ := ended
    cases hturned with
    | analyses hphase => exact absurd rfl (hphase snapshot)
    | fails | stores | storingFails => cases hnext

end Session

namespace Overlap

open Journal RefreshEvent

variable {v : Version} {scene : Overlap} {depth : Nat}

/-- The script stays as it is, and no cache is taken at hand, or made of one from the given number on,
that contradicts it. -/
def Step.Leaves (v : Version) (base : Nat) : Step → Prop
  | advance moment _ => moment.Shows v
  | resettle _ cache => ∃ found ∈ cache, v.AgreesWith found
  | recache number cache => base ≤ number → v.AgreesWith cache
  | _ => True

/-- Some refresh is just about to remember these statistics in a cache that was not given up. -/
def IsAboutTo (scene : Overlap) (key signature : String) (stats : FileStats) : Prop :=
  ∃ generation number next, scene.desk.session.cacheNumber ≤ number ∧
    scene.running generation = some (.analysing number (.ask (.remember key signature stats) next))

/-! ## All refreshes are truthful -/

/-- What the refreshes under way remember of a script, they have read right before. -/
def Truthful (scene : Overlap) (key : String) : Prop :=
  ∀ generation number job, scene.running generation = some (.analysing number job) →
    ∃ k, job.Meets (.truthful key) (fun _ _ => True) k

namespace Truthful

variable {key : String}

theorem update (h : scene.Truthful key) {generation : Nat} {phase? : Option RefreshPhase}
    (hphase : ∀ number job, phase? = some (.analysing number job) →
      ∃ k, job.Meets (.truthful key) (fun _ _ => True) k) {desk : Desk} {journal : Journal} :
    Truthful ⟨desk, Function.update scene.running generation phase?, journal⟩ key := by
  intro other number job hother
  by_cases hsame : other = generation
  · subst hsame
    exact hphase number job (by simpa using hother)
  · exact h other number job (by simpa [hsame] using hother)

theorem advance (h : scene.Truthful key) (moment : Moment) {generation : Nat} {phase : RefreshPhase}
    (hrunning : scene.running generation = some phase) :
    (scene.turn generation
      (outcome (Session.advance (moment.host depth) generation phase) scene.desk)).Truthful key := by
  have hanalysing (number : Nat) (job : Job Node) (left : Desk)
      (hended : outcome (Session.advance (moment.host depth) generation phase) scene.desk =
        (.ok (.goesOn (.analysing number job)), left)) :
      ∃ k, job.Meets (.truthful key) (fun _ _ => True) k := by
    rcases Session.analysing_of_advance hended with
      ⟨options, withCache, root, rfl⟩ | ⟨request, next, reply, rfl, rfl⟩
    · exact ⟨{}, Job.meets_truthful_buildTree key {} options withCache root⟩
    · obtain ⟨k, -, hnext⟩ := h generation _ _ hrunning
      exact ⟨_, hnext reply trivial⟩
  generalize outcome (Session.advance (moment.host depth) generation phase) scene.desk = ended
    at hanalysing
  obtain ⟨e | turn, left⟩ := ended
  · exact h.update fun _ _ hphase => by cases hphase
  · refine h.update fun number job hphase => ?_
    cases turn with
    | returns result => cases hphase
    | goesOn phase =>
      obtain rfl := Option.some_inj.1 hphase
      exact hanalysing number job left rfl

theorem step (h : scene.Truthful key) (step : Step) : (scene.step depth step).Truthful key := by
  cases step with
  | begin moment =>
    rw [Overlap.step]
    split
    · exact h.update fun _ _ hphase => by cases hphase
    · exact h
  | advance moment generation =>
    rw [Overlap.step]
    split
    next phase hrunning => exact h.advance moment hrunning
    next => exact h
  | abandon generation failure =>
    rw [Overlap.step]
    split
    · exact h.update fun _ _ hphase => by cases hphase
    · exact h
  | resettle | recache | edit => exact h

theorem run (h : scene.Truthful key) (steps : List Step) : (scene.run depth steps).Truthful key := by
  induction steps generalizing scene with
  | nil => exact h
  | cons step steps ih => exact ih (h.step step)

end Truthful

/-! ## After the save -/

/-- The session is ready for the script, and it is shown as it is by all refreshes but the `old` ones. -/
structure Guards (v : Version) (base : Nat) (old : Nat → Prop) (scene : Overlap) : Prop where
  ready : scene.desk.Ready v base
  running : ∀ generation phase, scene.running generation = some phase →
    phase.Shows v base (¬ old generation)
  finished : ∀ generation snapshot, finished generation (some snapshot) ∈ scene.journal →
    ¬ old generation → v.ShownBy snapshot.tree

namespace Guards

variable {base : Nat} {old : Nat → Prop}

theorem running_update (h : scene.Guards v base old) {generation : Nat} {phase? : Option RefreshPhase}
    (hphase : ∀ phase ∈ phase?, phase.Shows v base (¬ old generation)) (other : Nat)
    (phase : RefreshPhase)
    (hother : Function.update scene.running generation phase? other = some phase) :
    phase.Shows v base (¬ old other) := by
  by_cases hsame : other = generation
  · subst hsame
    exact hphase phase (by simpa using hother)
  · exact h.running other phase (by simpa [hsame] using hother)

theorem advance (h : scene.Guards v base old) {moment : Moment} (hshows : moment.Shows v)
    {generation : Nat} {phase : RefreshPhase} (hrunning : scene.running generation = some phase) :
    (scene.turn generation
      (outcome (Session.advance (moment.host depth) generation phase) scene.desk)).Guards v base old := by
  obtain ⟨hready, hnext⟩ := Session.shows_advance depth generation hshows h.ready
    (h.running generation phase hrunning)
  generalize outcome (Session.advance (moment.host depth) generation phase) scene.desk = ended
    at hready hnext
  obtain ⟨e | turn, left⟩ := ended
  · refine ⟨hready, h.running_update fun _ hphase => (by cases hphase), ?_⟩
    intro other snapshot hfinished
    exact h.finished other snapshot (by simpa [Overlap.turn] using hfinished)
  · refine ⟨hready, h.running_update fun next hphase => ?_, fun other snapshot hfinished hnew => ?_⟩
    · cases turn with
      | returns result => cases hphase
      | goesOn phase =>
        obtain rfl := Option.some_inj.1 hphase
        exact hnext phase rfl
    · rcases List.mem_append.1 hfinished with hfinished | hfinished
      · obtain ⟨rfl, rfl⟩ := RefreshTurn.eq_of_finished_mem_events hfinished
        exact hnext _ rfl hnew
      · exact h.finished other snapshot hfinished hnew

theorem step (h : scene.Guards v base old) {step : Step} (hstep : step.Leaves v base) :
    (scene.step depth step).Guards v base old := by
  cases step with
  | begin moment =>
    rw [Overlap.step]
    rcases Session.outcome_enter moment depth scene.desk with hended | ⟨failure, hended⟩
    · rw [hended]
      refine ⟨⟨h.ready.isSome, h.ready.base_le, h.ready.knows⟩,
        h.running_update fun phase hphase => ?_, ?_⟩
      · obtain rfl := Option.some_inj.1 hphase
        trivial
      · intro other snapshot hfinished
        exact h.finished other snapshot (by simpa using hfinished)
    · rw [hended]
      exact h
  | advance moment generation =>
    rw [Overlap.step]
    split
    next phase hrunning => exact h.advance hstep hrunning
    next => exact h
  | abandon generation failure =>
    rw [Overlap.step]
    split
    · refine ⟨h.ready, h.running_update fun _ hphase => (by cases hphase), ?_⟩
      intro other snapshot hfinished
      exact h.finished other snapshot (by simpa [Overlap.turn] using hfinished)
    · exact h
  | resettle settings cache =>
    obtain ⟨found, hfound, hagrees⟩ := hstep
    obtain rfl := Option.mem_def.1 hfound
    exact ⟨h.ready.replaceCache hagrees settings, h.running, h.finished⟩
  | recache number cache =>
    refine ⟨h.ready.mapCacheAt fun hle text hsigned => v.tells_fresh fun known hknown => ?_,
      h.running, h.finished⟩
    obtain ⟨changed, hchanged, hget⟩ := Option.bind_eq_some_iff.1 hknown
    obtain ⟨former, -, rfl⟩ := Option.map_eq_some_iff.1 hchanged
    exact hstep hle text hsigned known hget
  | edit disk =>
    exact ⟨⟨h.ready.isSome, h.ready.base_le, h.ready.knows⟩, h.running, h.finished⟩

theorem run (h : scene.Guards v base old) (steps : List Step)
    (hsteps : ∀ step ∈ steps, step.Leaves v base) : (scene.run depth steps).Guards v base old := by
  induction steps generalizing scene with
  | nil => exact h
  | cons step steps ih =>
    obtain ⟨hstep, hsteps⟩ := List.forall_mem_cons.1 hsteps
    exact ih (h.step hstep) hsteps

end Guards

/-- After a handled save all refreshes that begin are to show the script as it is, unless another one
is just about to remember something else. -/
theorem guards_of_saved (hsound : scene.Sound) (htruthful : scene.Truthful v.path) {left : Desk}
    (hready : left.Ready v scene.desk.session.cacheNumber) (hidle : ∀ text stats, v.IsSigned text →
      scene.IsAboutTo v.path text stats → stats = v.fresh) :
    Guards v scene.desk.session.cacheNumber (fun generation => began generation ∈ scene.journal)
      { scene with desk := left } where
  ready := hready
  running generation phase hrunning := by
    have hold : ¬ ¬ began generation ∈ scene.journal := not_not.2 (hsound.began hrunning)
    cases phase with
    | opening settings => trivial
    | storing snapshot => exact fun hnew => absurd hnew hold
    | analysing number job =>
      refine ⟨fun hnew => absurd hnew hold, fun hle => ?_⟩
      obtain ⟨k, hmeets⟩ := htruthful generation number job hrunning
      refine (hmeets.version_of_idle ?_).mono fun _ _ _ hnew => absurd hnew hold
      rintro text stats next rfl hsigned
      exact hidle text stats hsigned ⟨generation, number, next, hle, hrunning⟩
  finished generation snapshot hfinished hnew :=
    absurd (hsound.inOrder.began_of_finished hfinished) hnew

end Overlap

end ScriptStats
