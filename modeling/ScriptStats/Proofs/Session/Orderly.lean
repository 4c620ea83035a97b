import ScriptStats.Proofs.Session.Overlap

/-!
# Nothing is published that is out of date

A refresh that has been overtaken returns nothing and has changed nothing, and once all have
finished, the snapshot is that of the latest.
-/

namespace ScriptStats.Overlap

open Program Journal RefreshEvent

/-! ## What a refresh does before it publishes -/

/-- What is told stays told. -/
theorem journal_suffix_step (depth : Nat) (scene : Overlap) (step : Step) :
    scene.journal <:+ (scene.step depth step).journal := by
  have hturn (generation : Nat) (ended : Except Failure RefreshTurn × Desk) :
      scene.journal <:+ (scene.turn generation ended).journal := by
    obtain ⟨_ | turn, desk⟩ := ended
    · exact List.suffix_cons ..
    · exact List.suffix_append ..
  cases step with
  | begin moment =>
    rw [Overlap.step]
    split
    · exact List.suffix_cons ..
    · exact List.suffix_rfl
  | advance moment generation =>
    rw [Overlap.step]
    split
    · exact hturn _ _
    · exact List.suffix_rfl
  | abandon generation failure =>
    rw [Overlap.step]
    split
    · exact hturn _ _
    · exact List.suffix_rfl
  | resettle | recache | edit => exact List.suffix_rfl

theorem journal_suffix_run (depth : Nat) (scene : Overlap) (steps : List Step) :
    scene.journal <:+ (scene.run depth steps).journal := by
  induction steps generalizing scene with
  | nil => exact List.suffix_rfl
  | cons step steps ih => exact (journal_suffix_step depth scene step).trans (ih _)

theorem spares_begin (depth : Nat) (scene : Overlap) (moment : Moment) :
    scene.desk.Spares (scene.step depth (.begin moment)).desk := by
  rw [step]
  rcases Session.outcome_enter moment depth scene.desk with hended | ⟨failure, hended⟩
  · rw [hended]
    exact ⟨rfl, rfl, (Desk.Spares.refl _).keys, (Desk.Spares.refl _).former⟩
  · rw [hended]
    exact .refl _

/-- As long as a refresh has not published, its steps change nothing for others. -/
theorem Sound.spares {scene : Overlap} (h : scene.Sound) {depth : Nat} {step : Step}
    {generation : Nat} (hstep : step.refresh? scene = some generation)
    (hunpublished : ∀ snapshot,
      .finished generation (some snapshot) ∉ (scene.step depth step).journal) :
    scene.desk.Spares (scene.step depth step).desk := by
  cases step with
  | begin moment => exact spares_begin depth scene moment
  | advance moment other =>
    obtain rfl := Option.some.inj hstep
    rw [Overlap.step] at hunpublished ⊢
    cases hrunning : scene.running other with
    | none => exact .refl _
    | some phase =>
      rw [hrunning] at hunpublished
      have hturned := Session.turned_advance moment depth other phase scene.desk
      dsimp only at hunpublished ⊢
      generalize outcome (Session.advance (moment.host depth) other phase) scene.desk = ended
        at hunpublished hturned ⊢
      obtain ⟨result, desk⟩ := ended
      cases hturned with
      | analyses _ hlearns | fails _ hlearns => exact hlearns.toSpares
      | drops _ hdesk => exact hdesk ▸ .refl _
      | publishes => exact absurd List.mem_cons_self (hunpublished _)
      | stores | storingFails =>
        exact absurd (List.mem_cons_of_mem _ (h.finished hrunning)) (hunpublished _)
  | abandon other failure =>
    rw [Overlap.step]
    split <;> exact .refl _
  | resettle | recache | edit => cases hstep

/-- A session that has just begun, and the disk on which its cache is kept. -/
def fresh (root : Path) (settings : Settings) (extraExcludes : List String)
    (useCache : Option Bool) (disk : Disk) : Overlap :=
  { desk := ⟨{ root, settings, extraExcludes, useCache }, disk⟩ }

theorem sound_fresh (root : Path) (settings : Settings) (extraExcludes : List String)
    (useCache : Option Bool) (disk : Disk) :
    (fresh root settings extraExcludes useCache disk).Sound where
  inOrder := trivial
  began_iff generation := by
    simp only [fresh, List.not_mem_nil, false_iff]
    omega
  snapshot_eq := rfl
  began hrunning := by cases hrunning
  finished hrunning := by cases hrunning
  unfinished hrunning := by cases hrunning

/-! ## Whole runs -/

/-- What is kept by refreshes of one session, in whatever order they take their steps. -/
structure Orderly (depth : Nat) (start : Overlap) (steps : List Step) : Prop where
  /-- The numbers of published snapshots grow. -/
  increasing : (start.run depth steps).journal.published.Pairwise fun later earlier =>
    earlier.generation < later.generation
  bounded : ∀ snapshot ∈ (start.run depth steps).desk.session.snapshot,
    snapshot.generation ≤ (start.run depth steps).desk.session.generation
  /-- A refresh whose analysis has come to its end finishes. -/
  finishes : ∀ {generation number tree},
    (start.run depth steps).running generation = some (.analysing number (.done tree)) →
    ∀ moment, ∃ result, finished generation result ∈
      ((start.run depth steps).step depth (.advance moment generation)).journal
  /-- It publishes a snapshot just if no refresh has begun after it. -/
  decides : ∀ {later earlier generation result},
    (start.run depth steps).journal = later ++ finished generation result :: earlier →
    (result.isSome ↔ ¬ Overtaken earlier generation)
  /-- It returns what it finished with, which is one thing. -/
  returns : ∀ {generation result},
    returned generation (.ok result) ∈ (start.run depth steps).journal →
    ∀ {other}, finished generation other ∈ (start.run depth steps).journal ↔ other = result
  /-- After it has published, it returns its snapshot if it can write down what it has found. -/
  delivers : ∀ {generation snapshot},
    (start.run depth steps).running generation = some (.storing snapshot) →
    ∀ moment, ∃ outcome,
      ((start.run depth steps).step depth (.advance moment generation)).journal =
        returned generation outcome :: (start.run depth steps).journal ∧
      (outcome = .ok (some snapshot) ∨
        ∃ failure, outcome = .error failure ∧ Session.IsStoringFailure failure)
  /-- If it returns nothing, none of its steps has changed the snapshot or the disk, or has lost a
  key of a cache. -/
  spares : ∀ {before step after generation}, steps = before ++ step :: after →
    step.refresh? (start.run depth before) = some generation →
    returned generation (.ok none) ∈ (start.run depth steps).journal →
    (start.run depth before).desk.Spares (start.run depth (before ++ [step])).desk
  /-- When all have finished, the snapshot is that of the refresh that began last. -/
  latest : (∀ generation, began generation ∈ (start.run depth steps).journal →
      ∃ result, finished generation result ∈ (start.run depth steps).journal) →
    ∀ generation, began generation ∈ (start.run depth steps).journal →
      ¬ Overtaken (start.run depth steps).journal generation →
      ∃ snapshot, (start.run depth steps).desk.session.snapshot = some snapshot ∧
        snapshot.generation = generation ∧
        finished generation (some snapshot) ∈ (start.run depth steps).journal

theorem finishes {scene : Overlap} {generation number : Nat} {tree : Node}
    (hrunning : scene.running generation = some (.analysing number (.done tree))) (depth : Nat)
    (moment : Moment) :
    ∃ result, .finished generation result ∈
      (scene.step depth (.advance moment generation)).journal := by
  rw [step, hrunning]
  dsimp only
  by_cases hnewest : generation = scene.desk.session.generation
  · rw [Session.outcome_advance_done_of_eq tree hnewest]
    exact ⟨_, List.mem_cons_self⟩
  · rw [Session.outcome_advance_done_of_ne tree hnewest]
    exact ⟨_, List.mem_cons_of_mem _ List.mem_cons_self⟩

theorem delivers {scene : Overlap} {generation : Nat} {snapshot : Snapshot}
    (hrunning : scene.running generation = some (.storing snapshot)) (depth : Nat)
    (moment : Moment) :
    ∃ outcome, (scene.step depth (.advance moment generation)).journal =
        returned generation outcome :: scene.journal ∧
      (outcome = .ok (some snapshot) ∨
        ∃ failure, outcome = .error failure ∧ Session.IsStoringFailure failure) := by
  rw [step, hrunning]
  have hturned := Session.turned_advance moment depth generation (.storing snapshot) scene.desk
  dsimp only
  generalize outcome (Session.advance (moment.host depth) generation (.storing snapshot)) scene.desk
    = ended at hturned ⊢
  obtain ⟨result, desk⟩ := ended
  cases hturned with
  | analyses hphase | fails hphase => exact absurd rfl (hphase snapshot)
  | stores => exact ⟨_, rfl, .inl rfl⟩
  | storingFails _ hfailure => exact ⟨_, rfl, .inr ⟨_, rfl, hfailure⟩⟩

theorem Sound.orderly {start : Overlap} (hstart : start.Sound) (depth : Nat) (steps : List Step) :
    Orderly depth start steps := by
  have h : (start.run depth steps).Sound := hstart.run steps
  constructor
  case increasing => exact h.inOrder.pairwise_published
  case bounded =>
    intro snapshot hsnapshot
    rw [h.snapshot_eq] at hsnapshot
    exact h.le_generation (h.inOrder.mem_published (List.mem_of_mem_head? hsnapshot)).2
  case finishes =>
    intro generation number tree hrunning moment
    exact finishes hrunning depth moment
  case decides =>
    intro later earlier generation result hjournal
    exact (hjournal ▸ h.inOrder).isSome_iff_of_finished
  case returns =>
    intro generation result hreturned other
    have hfinished := h.inOrder.finished_of_returned hreturned
    refine ⟨fun hother => h.inOrder.finished_unique hother hfinished, ?_⟩
    rintro rfl
    exact hfinished
  case delivers =>
    intro generation snapshot hrunning moment
    exact delivers hrunning depth moment
  case spares =>
    rintro before step after generation rfl hstep hreturned
    have hfinished := h.inOrder.finished_of_returned hreturned
    rw [run_append] at hreturned hfinished ⊢
    refine (hstart.run before).spares hstep fun snapshot hsnapshot => ?_
    have hlater := (journal_suffix_run depth ((start.run depth before).step depth step) after).subset
      hsnapshot
    rw [run_append] at h
    cases h.inOrder.finished_unique hfinished hlater
  case latest =>
    intro hall generation hbegan hnewest
    obtain ⟨result, hfinished⟩ := hall generation hbegan
    obtain ⟨snapshot, rfl, hpublished⟩ := h.inOrder.head?_published hfinished hnewest
    exact ⟨snapshot, h.snapshot_eq.trans hpublished, h.inOrder.generation_of_finished hfinished,
      hfinished⟩

/-- However the refreshes of a session overlap, a refresh that has been overtaken publishes nothing
and changes nothing, and the snapshot is that of the latest. -/
theorem orderly_run (depth : Nat) (root : Path) (settings : Settings) (extraExcludes : List String)
    (useCache : Option Bool) (disk : Disk) (steps : List Step) :
    Orderly depth (fresh root settings extraExcludes useCache disk) steps :=
  (sound_fresh root settings extraExcludes useCache disk).orderly depth steps

end ScriptStats.Overlap
