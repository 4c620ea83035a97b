import ScriptStats.Analysis.Job

/-!
# Jobs in sequence

Running one job after another is running the two in sequence.
-/

namespace ScriptStats.Job

variable {α β : Type}

theorem bind_done (job : Job α) : job.bind done = job := by
  induction job with
  | done a => rfl
  | ask request next ih => exact congrArg (ask request) (funext ih)

protected theorem bind_assoc {γ : Type} (job : Job α) (f : α → Job β) (g : β → Job γ) :
    (job.bind f).bind g = job.bind fun a => (f a).bind g := by
  induction job with
  | done a => rfl
  | ask request next ih => exact congrArg (ask request) (funext ih)

instance : LawfulMonad Job :=
  LawfulMonad.mk' Job bind_done (fun _ _ => rfl) Job.bind_assoc

variable {m : Type → Type} [Monad m] (answer : (request : Request) → m request.Reply)

theorem run_bind [LawfulMonad m] (job : Job α) (f : α → Job β) :
    (job >>= f).run answer = job.run answer >>= fun a => (f a).run answer := by
  change (job.bind f).run answer = _
  induction job with
  | done a => exact (pure_bind a fun a => (f a).run answer).symm
  | ask request next ih =>
    simp only [Job.bind, run, bind_assoc]
    exact bind_congr ih

theorem run_send [LawfulMonad m] (request : Request) :
    (send request).run answer = answer request :=
  bind_pure _

end ScriptStats.Job
