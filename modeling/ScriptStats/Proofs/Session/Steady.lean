import ScriptStats.Proofs.Session.Desk

/-!
# Jobs without a memory

Walks, and the reading of a script, neither remember anything nor look it up. In a session they come
to what they come to without one, and leave everything as it is.
-/

namespace ScriptStats

open Program

variable {α β : Type}

namespace Moment

variable (moment : Moment) (depth : Nat)

/-- The job at work in a session. -/
def atWork (job : Job α) : Desk.Act α :=
  job.run (Session.answer (moment.host depth))

theorem eval_bind (job : Job α) (next : α → Job β) :
    moment.eval (job >>= next) = moment.eval job >>= fun a => moment.eval (next a) :=
  Job.run_bind _ job next

theorem atWork_bind (job : Job α) (next : α → Job β) :
    moment.atWork depth (job >>= next) =
      moment.atWork depth job >>= fun a => moment.atWork depth (next a) :=
  Job.run_bind _ job next

theorem atWork_send (request : Request) :
    moment.atWork depth (Job.send request) = Session.answer (moment.host depth) request :=
  Job.run_send _ request

theorem eval_send (request : Request) :
    moment.eval (Job.send request) = moment.answer request :=
  Job.run_send _ request

/-! ## The cache at hand -/

/-- As long as nobody else is at work, the cache at hand stays there. -/
theorem former_answer (request : Request) (desk : Desk) :
    (outcome (Session.answer (moment.host depth) request) desk).2.session.former =
      desk.session.former := by
  cases request with
  | list path =>
    exact congrArg (·.2.session.former) (Desk.outcome_possible (moment.list path) desk)
  | read path =>
    exact congrArg (·.2.session.former) (Desk.outcome_possible (moment.read path) desk)
  | signature path =>
    exact congrArg (·.2.session.former) (Desk.outcome_possible (moment.signature path) desk)
  | identity path =>
    exact congrArg (·.2.session.former) (Desk.outcome_required (moment.identity path) desk)
  | directoryBound | lookUp | remember | note => rfl

theorem outcome_answerFrom (request : Request) (desk : Desk) :
    outcome (Session.answerFrom (moment.host depth) desk.session.cacheNumber request) desk =
      outcome (Session.answer (moment.host depth) request) desk := by
  cases request with
  | lookUp key signature =>
    change (Except.ok ((desk.session.cacheAt? desk.session.cacheNumber).bind _), desk) = _
    rw [Session.cacheAt?, if_pos rfl]
    rfl
  | remember key signature stats =>
    change (Except.ok (), { desk with session := desk.session.mapCacheAt desk.session.cacheNumber _ }) = _
    rw [Session.mapCacheAt, if_pos rfl]
    rfl
  | list | read | signature | identity | directoryBound | note => rfl

theorem outcome_run_answerFrom (job : Job α) (desk : Desk) :
    outcome (job.run (Session.answerFrom (moment.host depth) desk.session.cacheNumber)) desk =
      outcome (moment.atWork depth job) desk := by
  induction job generalizing desk with
  | done a => rfl
  | ask request next ih =>
    have hformer := former_answer moment depth request desk
    change outcome (Session.answerFrom _ _ request >>= _) desk =
      outcome (Session.answer (moment.host depth) request >>= fun reply =>
        moment.atWork depth (next reply)) desk
    rw [outcome_bind, outcome_bind, outcome_answerFrom]
    generalize outcome (Session.answer (moment.host depth) request) desk = ended at hformer
    obtain ⟨e | reply, left⟩ := ended
    · rfl
    · have hnumber : left.session.cacheNumber = desk.session.cacheNumber :=
        congrArg List.length hformer
      exact hnumber ▸ ih reply left

/-- The analysis of a document keeps to the cache at hand as well. -/
theorem document_eq (path : Path) :
    Session.document (moment.host depth) (some path) none = (do
      let withCache ← Session.openCache (moment.host depth)
      moment.atWork depth (ScriptFile.stats withCache path)) := by
  refine bind_congr fun withCache => funext fun desk => ?_
  exact outcome_run_answerFrom moment depth (ScriptFile.stats withCache path) desk

/-! ## Jobs without a memory -/

/-- A job that does without a memory: it leaves the desk as it is. -/
def Steady (job : Job α) : Prop :=
  ∀ desk, outcome (moment.atWork depth job) desk = (moment.eval job, desk)

variable {moment depth}

theorem steady_pure (a : α) : moment.Steady depth (pure a : Job α) :=
  fun _ => rfl

theorem Steady.bind {job : Job α} {next : α → Job β} (h : moment.Steady depth job)
    (hnext : ∀ a, moment.Steady depth (next a)) : moment.Steady depth (job >>= next) := by
  intro desk
  rw [atWork_bind, outcome_bind, h desk, eval_bind]
  cases moment.eval job with
  | error e => rfl
  | ok a => exact hnext a desk

theorem steady_send {request : Request}
    (h : ∀ desk, outcome (Session.answer (moment.host depth) request) desk =
      (moment.answer request, desk)) : moment.Steady depth (Job.send request) := by
  intro desk
  rw [atWork_send, eval_send, h desk]

theorem steady_list (path : Path) : moment.Steady depth (Job.send (.list path)) :=
  steady_send (Desk.outcome_possible (moment.list path))

theorem steady_read (path : Path) : moment.Steady depth (Job.send (.read path)) :=
  steady_send (Desk.outcome_possible (moment.read path))

theorem steady_signature (path : Path) : moment.Steady depth (Job.send (.signature path)) :=
  steady_send (Desk.outcome_possible (moment.signature path))

theorem steady_identity (path : Path) : moment.Steady depth (Job.send (.identity path)) :=
  steady_send (Desk.outcome_required (moment.identity path))

theorem steady_directoryBound : moment.Steady depth (Job.send .directoryBound) :=
  fun _ => rfl

theorem steady_note (source : LogSource) (level : LogLevel) (message : String) :
    moment.Steady depth (Job.note source level message) :=
  fun _ => rfl

theorem outcome_answer_of_cache_eq_none (request : Request) {desk : Desk}
    (h : desk.session.cache = none) :
    outcome (Session.answer (moment.host depth) request) desk = (moment.answer request, desk) := by
  cases request with
  | list path => exact Desk.outcome_possible (moment.list path) desk
  | read path => exact Desk.outcome_possible (moment.read path) desk
  | signature path => exact Desk.outcome_possible (moment.signature path) desk
  | identity path => exact Desk.outcome_required (moment.identity path) desk
  | directoryBound => rfl
  | lookUp key signature =>
    change (Except.ok (desk.session.cache.bind (·.get? key signature)), desk) = _
    rw [h]
    rfl
  | remember key signature stats =>
    obtain ⟨session, disk⟩ := desk
    cases session
    obtain rfl := h
    rfl
  | note record => rfl

/-- A session without a cache remembers nothing. -/
theorem outcome_atWork_of_cache_eq_none (job : Job α) {desk : Desk}
    (h : desk.session.cache = none) :
    outcome (moment.atWork depth job) desk = (moment.eval job, desk) := by
  induction job with
  | done a => rfl
  | ask request next ih =>
    change outcome (Session.answer (moment.host depth) request >>= fun reply =>
      moment.atWork depth (next reply)) desk = (moment.answer request >>= fun reply =>
        moment.eval (next reply), desk)
    rw [outcome_bind, outcome_answer_of_cache_eq_none request h]
    cases moment.answer request with
    | error e => rfl
    | ok reply => exact ih reply

/-! ## Walks -/

theorem steady_admits (options : WalkOptions) (level : Nat) (met : Walk.Identities)
    (entry : Entry) : moment.Steady depth (Walk.admits options level met entry) := by
  unfold Walk.admits
  split
  · exact (steady_note _ _ _).bind fun _ => steady_pure _
  split
  · exact (steady_note _ _ _).bind fun _ => steady_pure _
  refine (steady_identity _).bind fun identity => ?_
  split
  · exact (steady_note _ _ _).bind fun _ => steady_pure _
  · exact steady_pure _

theorem steady_keep (options : WalkOptions) (level : Nat) (met : Walk.Identities)
    (entries : List Entry) : moment.Steady depth (Walk.keep options level met entries) := by
  induction entries generalizing met with
  | nil => exact steady_pure _
  | cons entry entries ih =>
    unfold Walk.keep
    split
    · exact (steady_admits _ _ _ _).bind fun admitted => (ih _).bind fun _ => steady_pure _
    · exact (ih met).bind fun _ => steady_pure _

theorem steady_walkList (directory : Path) : moment.Steady depth (Walk.list directory) := by
  refine (steady_list directory).bind fun listed => ?_
  cases listed with
  | ok entries => exact steady_pure entries
  | error e => exact (steady_note _ _ _).bind fun _ => steady_pure []

theorem steady_enter (options : WalkOptions) (fuel : Nat) (met : Walk.Identities)
    (due : List (Path × Nat)) : moment.Steady depth (Walk.enter options fuel met due) := by
  induction fuel generalizing met due with
  | zero => exact steady_pure _
  | succ fuel ih =>
    cases due with
    | nil => exact steady_pure _
    | cons next due =>
      refine (steady_walkList next.1).bind fun entries => ?_
      exact (steady_keep _ _ _ _).bind fun kept => (ih _ _).bind fun _ => steady_pure _

theorem steady_walk (options : WalkOptions) (root : Path) :
    moment.Steady depth (walk options root) := by
  refine steady_directoryBound.bind fun bound => (steady_identity root).bind fun identity => ?_
  exact (steady_enter _ _ _ _).bind fun listings => (steady_note _ _ _).bind fun _ => steady_pure _

/-! ## Scripts -/

theorem steady_signatureText (path : Path) :
    moment.Steady depth (ScriptFile.signature path) := by
  refine (steady_signature path).bind fun found => ?_
  cases found <;> exact steady_pure _

theorem steady_readStats (path : Path) : moment.Steady depth (ScriptFile.readStats path) := by
  refine (steady_read path).bind fun found => ?_
  cases found with
  | error e => exact (steady_note _ _ _).bind fun _ => steady_pure _
  | ok bytes =>
    dsimp only
    split
    · exact (steady_note _ _ _).bind fun _ => steady_pure _
    · exact steady_pure _

theorem steady_freshStats (path : Path) : moment.Steady depth (ScriptFile.freshStats path) :=
  (steady_readStats path).bind fun _ => steady_pure _

/-! ## Trees built without a cache -/

theorem steady_mapM {job : α → Job β} (h : ∀ item, moment.Steady depth (job item))
    (items : List α) : moment.Steady depth (items.mapM job) := by
  induction items with
  | nil => exact steady_pure []
  | cons item items ih =>
    rw [List.mapM_cons]
    exact (h item).bind fun _ => ih.bind fun _ => steady_pure _

theorem steady_analyze (listings : List Listing) :
    moment.Steady depth (Aggregation.analyze false listings) := by
  induction listings with
  | nil => exact steady_pure []
  | cons listing listings ih =>
    exact ih.bind fun _ => (steady_mapM (fun _ => steady_freshStats _) _).bind fun _ => steady_pure _

theorem steady_buildTree (options : WalkOptions) (root : Path) :
    moment.Steady depth (buildTree options false root) :=
  (steady_walk options root).bind fun _ => (steady_analyze _).bind fun _ => steady_pure _

end Moment

end ScriptStats
