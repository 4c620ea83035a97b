import ScriptStats.Proofs.Session.Overlap
import ScriptStats.Proofs.Session.Saved

/-!
# Refreshes that nobody interrupts

A refresh whose steps follow one another, at one moment, publishes the tree that its job comes to.
-/

namespace ScriptStats

open Program Moment

namespace Overlap

open Journal RefreshEvent

variable {scene : Overlap} {depth : Nat}

/-- A request is answered. -/
theorem step_ask {moment : Moment} {generation number : Nat} {request : Request}
    {next : request.Reply → Job Node}
    (hrunning : scene.running generation = some (.analysing number (.ask request next)))
    {reply : request.Reply} {left : Desk}
    (hanswer : outcome (Session.answerFrom (moment.host depth) number request) scene.desk =
      (.ok reply, left)) :
    scene.step depth (.advance moment generation) =
      { scene with
        desk := left
        running := Function.update scene.running generation (some (.analysing number (next reply))) } := by
  simp only [step, hrunning, Session.advance, outcome_bind, hanswer]
  rfl

/-- Statistics are remembered in the cache at hand. -/
theorem step_remember {moment : Moment} {generation : Nat} {key text : String} {stats : FileStats}
    {next : Unit → Job Node} (hrunning : scene.running generation =
      some (.analysing scene.desk.session.cacheNumber (.ask (.remember key text stats) next)))
    {cache : Cache} (hcache : scene.desk.session.cache = some cache) :
    (scene.step depth (.advance moment generation)).desk =
      scene.desk.withCache (some (cache.store key text stats moment.time)) := by
  rw [step_ask hrunning (outcome_answerFrom moment depth _ scene.desk)]
  change scene.desk.withCache (scene.desk.session.cache.map _) = _
  rw [hcache]
  rfl

/-- A refresh that nobody interrupts comes to the end of its analysis. -/
theorem exists_run_analysing {moment : Moment} {generation number : Nat} {job : Job Node}
    {tree : Node} {left : Desk} (hrunning : scene.running generation = some (.analysing number job))
    (hjob : outcome (job.run (Session.answerFrom (moment.host depth) number)) scene.desk =
      (.ok tree, left)) :
    ∃ count, scene.run depth (List.replicate count (.advance moment generation)) =
      { scene with
        desk := left
        running := Function.update scene.running generation (some (.analysing number (.done tree))) } := by
  induction job generalizing scene with
  | done a =>
    cases hjob
    refine ⟨0, ?_⟩
    rw [← hrunning, Function.update_eq_self]
    rfl
  | ask request next ih =>
    rw [Job.run, outcome_bind] at hjob
    cases hanswer : outcome (Session.answerFrom (moment.host depth) number request) scene.desk with
    | mk ended mid =>
      rw [hanswer] at hjob
      cases ended with
      | error e => cases hjob
      | ok reply =>
        have hstep := step_ask hrunning hanswer
        obtain ⟨count, hrun⟩ := @ih reply (scene.step depth (.advance moment generation))
          (by rw [hstep]; exact Function.update_self ..) (by rw [hstep]; exact hjob)
        refine ⟨count + 1, ?_⟩
        rw [List.replicate_succ, run, List.foldl_cons]
        refine hrun.trans ?_
        rw [hstep, Function.update_idem]

/-- The newest refresh publishes the tree if nobody interrupts it. -/
theorem exists_run_finishes {moment : Moment} {generation : Nat} {job : Job Node} {tree : Node}
    {left : Desk}
    (hrunning : scene.running generation = some (.analysing scene.desk.session.cacheNumber job))
    (hnewest : generation = scene.desk.session.generation)
    (hjob : outcome (moment.atWork depth job) scene.desk = (.ok tree, left)) :
    ∃ count, finished generation (some ⟨generation, scene.desk.session.root, tree⟩) ∈
      (scene.run depth (List.replicate count (.advance moment generation))).journal := by
  obtain ⟨count, hrun⟩ := exists_run_analysing hrunning
    ((outcome_run_answerFrom moment depth job scene.desk).trans hjob)
  have hremembers := remembers_atWork moment depth job scene.desk
  rw [hjob] at hremembers
  obtain ⟨after, rfl⟩ := hremembers.exists_eq_withCache
  have hdone := @Session.outcome_advance_done_of_eq depth moment (scene.desk.withCache after)
    scene.desk.session.cacheNumber generation tree hnewest
  refine ⟨count + 1, ?_⟩
  rw [List.replicate_succ', run_append, hrun]
  simp only [run, List.foldl_cons, List.foldl_nil, step, Function.update_self]
  rw [hdone]
  exact List.mem_cons_self

theorem step_begin {moment : Moment}
    (hdirectory : moment.isDirectory scene.desk.session.root = .ok true) :
    scene.step depth (.begin moment) =
      ⟨{ scene.desk with session := scene.desk.session.begin.2 },
        Function.update scene.running (scene.desk.session.generation + 1)
          (some (.opening scene.desk.session.settings)),
        began (scene.desk.session.generation + 1) :: scene.journal⟩ := by
  rw [step, Session.outcome_enter_of_isDirectory hdirectory]

/-- A refresh that has just begun goes by the settings of the session. -/
theorem step_opening {moment : Moment} {generation : Nat}
    (hrunning : scene.running generation = some (.opening scene.desk.session.settings)) {withCache : Bool} {opened : Desk}
    (hopen : outcome (Session.openCache (moment.host depth)) scene.desk = (.ok withCache, opened)) :
    scene.step depth (.advance moment generation) =
      { scene with
        desk := opened
        running := Function.update scene.running generation (some (.analysing opened.session.cacheNumber
          (buildTree (opened.session.optionsUnder scene.desk.session.settings) withCache
            opened.session.root))) } := by
  have hopen : outcome (Session.openCacheFor (moment.host depth) scene.desk.session.settings)
      scene.desk = (.ok withCache, opened) := hopen
  simp only [step, hrunning, Session.advance]
  rw [outcome_bind_ok hopen]
  rfl

/-- A refresh that begins and is not interrupted publishes the tree that it comes to. -/
theorem exists_run_refresh {moment : Moment}
    (hdirectory : moment.isDirectory scene.desk.session.root = .ok true)
    (henabled : scene.desk.session.cacheEnabled = true) {cache : Cache}
    (hcache : scene.desk.session.cache = some cache) {tree : Node} {left : Desk}
    (htree : outcome (moment.atWork depth (buildTree scene.desk.session.options true
      scene.desk.session.root)) { scene.desk with session := scene.desk.session.begin.2 } =
        (.ok tree, left)) :
    ∃ steps : List Step,
      (∀ step ∈ steps, step = .begin moment ∨ ∃ generation, step = .advance moment generation) ∧
      finished (scene.desk.session.generation + 1) (some (scene.desk.session.next tree)) ∈
        (scene.run depth steps).journal := by
  have hopen : outcome (Session.openCache (moment.host depth))
      { scene.desk with session := scene.desk.session.begin.2 } =
        (.ok true, { scene.desk with session := scene.desk.session.begin.2 }) :=
    Session.outcome_openCache_of_cache henabled hcache
  have hopened : scene.run depth [.begin moment, .advance moment (scene.desk.session.generation + 1)] =
      ⟨{ scene.desk with session := scene.desk.session.begin.2 },
        Function.update scene.running (scene.desk.session.generation + 1) (some (.analysing
          scene.desk.session.cacheNumber (buildTree scene.desk.session.options true scene.desk.session.root))),
        began (scene.desk.session.generation + 1) :: scene.journal⟩ := by
    rw [run, List.foldl_cons, List.foldl_cons, step_begin hdirectory]
    refine (step_opening (Function.update_self ..) hopen).trans ?_
    rw [Function.update_idem]
    rfl
  obtain ⟨count, hfinished⟩ := @exists_run_finishes (scene.run depth
    [.begin moment, .advance moment (scene.desk.session.generation + 1)]) depth moment
      (scene.desk.session.generation + 1) _ tree left
      (by rw [hopened]; exact Function.update_self ..) (by rw [hopened]; rfl)
      (by rw [hopened]; exact htree)
  refine ⟨[.begin moment, .advance moment (scene.desk.session.generation + 1)] ++
    List.replicate count (.advance moment (scene.desk.session.generation + 1)), ?_, ?_⟩
  · intro step hstep
    simp only [List.mem_append, List.mem_cons, List.not_mem_nil, or_false, List.mem_replicate] at hstep
    rcases hstep with (rfl | rfl) | ⟨-, rfl⟩
    · exact .inl rfl
    · exact .inr ⟨_, rfl⟩
    · exact .inr ⟨_, rfl⟩
  · rw [run_append]
    rw [hopened] at hfinished ⊢
    exact hfinished

end Overlap

end ScriptStats
