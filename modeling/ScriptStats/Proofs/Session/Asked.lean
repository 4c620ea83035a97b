import ScriptStats.Proofs.Session.Together

/-!
# What is asked

A job makes its requests one after the other, and which ones it makes depends on the replies. The
analysis of a workspace reads none but the scripts that the walk has found, and of these it reads
only those of which the cache has told nothing at first.
-/

namespace ScriptStats

open Program

namespace Moment

/-- The requests that a job makes, in their order. -/
def asked (moment : Moment) (depth : Nat) {α : Type} : Job α → Desk → List Request
  | .done _, _ => []
  | .ask request next, desk =>
    request ::
      match outcome (Session.answer (moment.host depth) request) desk with
      | (.ok reply, left) => asked moment depth (next reply) left
      | (.error _, _) => []

variable {moment : Moment} {depth : Nat} {α β κ : Type} {desk left : Desk}

theorem asked_ask (moment : Moment) (depth : Nat) (request : Request)
    (next : request.Reply → Job α) (desk : Desk) : moment.asked depth (.ask request next) desk =
      request :: match outcome (Session.answer (moment.host depth) request) desk with
        | (.ok reply, left) => moment.asked depth (next reply) left
        | (.error _, _) => [] := by
  rw [asked]

theorem asked_bind_of_ok {job : Job α} {a : α}
    (h : outcome (moment.atWork depth job) desk = (.ok a, left)) (next : α → Job β) :
    moment.asked depth (job >>= next) desk =
      moment.asked depth job desk ++ moment.asked depth (next a) left := by
  induction job generalizing desk with
  | done b =>
    cases h
    rfl
  | ask request rest ih =>
    obtain ⟨reply, mid, hanswer, hrest⟩ := exists_of_outcome_bind_ok h
    change moment.asked depth (.ask request fun reply => (rest reply) >>= next) desk = _
    rw [asked_ask, asked_ask, hanswer]
    exact congrArg (request :: ·) (ih reply hrest)

/-- A job whose replies are such as its contract says asks nothing but what it may. -/
theorem may_of_mem_asked {contract : Contract κ} {I : κ → Desk → Prop}
    (hanswer : ∀ {k desk} {request : Request} {reply : request.Reply} {left}, I k desk →
      contract.may k request →
        outcome (Session.answer (moment.host depth) request) desk = (.ok reply, left) →
          contract.expects k request reply ∧ I (contract.learns k request reply) left)
    {Q : κ → α → Prop} {k : κ} {job : Job α} (hmeets : job.Meets contract Q k) (hI : I k desk)
    {request : Request} (h : request ∈ moment.asked depth job desk) :
    ∃ k, contract.may k request := by
  induction job generalizing desk k with
  | done a => exact absurd h List.not_mem_nil
  | ask first next ih =>
    rw [asked_ask] at h
    rcases List.mem_cons.1 h with rfl | h
    · exact ⟨k, hmeets.1⟩
    · split at h
      next reply left hreply =>
        obtain ⟨hexpects, hleft⟩ := hanswer hI hmeets.1 hreply
        exact ih reply (hmeets.2 reply hexpects) hleft h
      next => exact absurd h List.not_mem_nil

end Moment

/-- Requests that are neither about a script nor about what is remembered of one. -/
def Contract.quiet : Contract Unit where
  may _ request := request.IsQuiet
  expects _ _ _ := True
  learns _ _ _ := ()

theorem Contract.quiet_allowsQuiet : quiet.AllowsQuiet :=
  fun _ _ h => h

namespace Job

variable {moment : Moment} {memory : Option Cache} {scripts : List Path}

theorem meets_adding_analyze (hbyText : moment.ByText) {listings : List Listing}
    (hscripts : ∀ listing ∈ listings, ∀ entry ∈ listing.scripts, entry.path ∈ scripts)
    (known : String → Prop) :
    Meets (.adding moment memory scripts) (fun _ _ => True) known
      (Aggregation.analyze memory.isSome listings) := by
  induction listings generalizing known with
  | nil => trivial
  | cons listing listings ih =>
    rw [List.forall_mem_cons] at hscripts
    refine (ih hscripts.2 known).bind fun known _ _ => ?_
    have hstats : Meets (.adding moment memory scripts) (fun _ _ => True) known
        (listing.scripts.mapM fun entry => ScriptFile.stats memory.isSome entry.path) := by
      have hall : ∀ entry ∈ listing.scripts, ∀ known,
          Meets (.adding moment memory scripts) (fun _ _ => True) known
            (ScriptFile.stats memory.isSome entry.path) := fun entry hentry known =>
        (meets_adding_stats hbyText (hscripts.1 entry hentry) known).mono fun _ _ _ => trivial
      exact (meets_mapM hall known).mono fun _ _ _ => trivial
    exact hstats.bind fun _ _ _ => trivial

end Job

namespace Moment

variable {moment : Moment} {depth : Nat} {desk : Desk} {options : WalkOptions} {root : Path}

theorem not_read_of_mem_asked_walk {script : Path} :
    .read script ∉ moment.asked depth (walk options root) desk := by
  intro h
  have hmeets := Job.meets_walk Contract.quiet_allowsQuiet () options root
  have hmay := may_of_mem_asked (I := fun _ _ => True) (fun _ _ _ => ⟨trivial, trivial⟩)
    hmeets trivial h
  exact hmay.elim fun _ hquiet => hquiet

/-- The analysis of a workspace reads only scripts that are listed in it, and of these only those of
which the cache has told nothing at first. -/
theorem told?_eq_none_of_mem_asked (hbyText : moment.ByText) {listings : List Listing}
    (hwalk : moment.eval (walk options root) = .ok listings) {script : Path}
    (h : .read script ∈ moment.asked depth
      (buildTree options desk.session.cache.isSome root) desk) :
    script ∈ scriptsOf listings ∧ moment.told? desk.session.cache script = none := by
  have hwalked : outcome (moment.atWork depth (walk options root)) desk = (.ok listings, desk) := by
    rw [steady_walk, hwalk]
  rw [buildTree, asked_bind_of_ok hwalked] at h
  have h := (List.mem_append.1 h).resolve_left not_read_of_mem_asked_walk
  have hmeets : Job.Meets (.adding moment desk.session.cache (scriptsOf listings))
      (fun _ _ => True) (fun _ => False) (Aggregation.analyze desk.session.cache.isSome listings) :=
    Job.meets_adding_analyze hbyText mem_scriptsOf _
  have hgrown := Desk.grown_refl moment (scriptsOf listings) desk
  have hrest := hmeets.bind fun known found _ =>
    Job.meets_pure (Q := fun _ _ => True) (k := known)
      (a := (Aggregation.root? root found).getD (Node.ofDirectory root [])) trivial
  obtain ⟨-, hscript, htold⟩ := may_of_mem_asked
    (I := fun _ other => other.Grown moment desk.session.cache (scriptsOf listings))
    (fun hgrown hmay hanswer =>
      have hanswered := hgrown.answered hbyText hmay hanswer
      ⟨hanswered.expects, hanswered.grown⟩)
    hrest hgrown h
  exact ⟨hscript, htold⟩

end Moment

end ScriptStats
