import Mathlib.Data.Finset.Card
import ScriptStats.Analysis.Aggregation
import ScriptStats.Proofs.Analysis.Job

/-!
# Jobs on still files

A job that runs without a cache on files nobody changes comes to a plain value.
-/

namespace ScriptStats

/-- Why the files refuse a request. -/
abbrev Refusal := { error : FileError // error.isRefusal = true }

/-- There is no such file. -/
def Refusal.notFound : Refusal :=
  ⟨.fault .notFound "", rfl⟩

/-- Files that nobody changes, with finitely many directories. -/
structure StillFiles where
  list : Path → Except Refusal (List Entry)
  read : Path → Except Refusal Bytes
  signature : Path → Except Refusal Signature
  identity : Path → String
  directoryBound : Nat
  /-- The identities of the directories that are listed somewhere. -/
  listed : Finset String
  identity_mem_listed : ∀ {directory entries}, list directory = .ok entries →
    ∀ entry ∈ entries, entry.isDirectory = true → identity entry.path ∈ listed
  card_listed_le : listed.card ≤ directoryBound

namespace StillFiles

/-- Answers a job. Nothing is remembered and no record is kept. -/
def answer (files : StillFiles) : (request : Request) → request.Reply
  | .list path => (files.list path).mapError Subtype.val
  | .read path => (files.read path).mapError Subtype.val
  | .signature path => (files.signature path).mapError Subtype.val
  | .identity path => files.identity path
  | .directoryBound => files.directoryBound
  | .lookUp _ _ => none
  | .remember _ _ _ => ()
  | .note _ => ()

/-- What a job comes to. -/
def run {α : Type} (files : StillFiles) (job : Job α) : α :=
  Id.run (job.run fun request => pure (files.answer request))

variable {files : StillFiles} {α β : Type}

@[simp]
theorem run_pure (a : α) : files.run (pure a) = a :=
  rfl

@[simp]
theorem run_bind (job : Job α) (f : α → Job β) :
    files.run (job >>= f) = files.run (f (files.run job)) :=
  Job.run_bind _ job f

@[simp]
theorem run_map (f : α → β) (job : Job α) : files.run (f <$> job) = f (files.run job) :=
  run_bind job (pure ∘ f)

@[simp]
theorem run_send_list (directory : Path) :
    (files.run (Job.send (.list directory)) : Except FileError (List Entry)) =
      (files.list directory).mapError Subtype.val :=
  rfl

@[simp]
theorem run_send_read (script : Path) :
    (files.run (Job.send (.read script)) : Except FileError Bytes) =
      (files.read script).mapError Subtype.val :=
  rfl

@[simp]
theorem run_send_identity (directory : Path) :
    (files.run (Job.send (.identity directory)) : String) = files.identity directory :=
  rfl

@[simp]
theorem run_send_directoryBound :
    (files.run (Job.send .directoryBound) : Nat) = files.directoryBound :=
  rfl

@[simp]
theorem run_mapM (f : α → Job β) (items : List α) :
    files.run (items.mapM f) = items.map fun item => files.run (f item) := by
  induction items with
  | nil => rfl
  | cons item items ih => simp [List.mapM_cons, ih]

/-- The entries of a directory. One that cannot be listed seems to have none. -/
def entries (files : StillFiles) (directory : Path) : List Entry :=
  match files.list directory with
  | .ok entries => entries
  | .error _ => []

theorem identity_mem_listed_of_entries {directory : Path} {entry : Entry}
    (hentry : entry ∈ files.entries directory) (hkind : entry.isDirectory = true) :
    files.identity entry.path ∈ files.listed := by
  unfold entries at hentry
  split at hentry
  next entries hlist => exact files.identity_mem_listed hlist entry hentry hkind
  next => simp at hentry

@[simp]
theorem run_list (directory : Path) :
    files.run (Walk.list directory) = files.entries directory := by
  simp only [Walk.list, run_bind, run_send_list, entries]
  cases files.list directory with
  | ok entries => rfl
  | error refusal => rfl

/-- The statistics of a script when it is analysed without a cache. -/
def stats (files : StillFiles) (script : Path) : FileStats :=
  files.run (ScriptFile.stats false script)

/-- Only what is read of a script counts. -/
theorem stats_eq (script : Path) : files.stats script =
    (((files.read script).toOption.bind fun bytes => (Script.decode bytes).toOption).map
      Script.stats).getD {} := by
  simp only [stats, ScriptFile.stats, ScriptFile.freshStats, ScriptFile.readStats,
    Bool.false_eq_true, if_false, run_bind, run_send_read, run_pure]
  cases files.read script with
  | error refusal => rfl
  | ok bytes =>
    simp only [Except.mapError, Except.toOption, Option.bind_some]
    cases Script.decode bytes <;> rfl

theorem run_analyze (listings : List Listing) :
    files.run (Aggregation.analyze false listings) = listings.map fun listing =>
      ⟨listing, listing.scripts.map fun entry => files.stats entry.path⟩ := by
  induction listings with
  | nil => rfl
  | cons listing listings ih =>
    simp only [Aggregation.analyze, run_bind, run_pure, run_mapM, ih]
    rfl

end StillFiles

end ScriptStats
