import ScriptStats.Files.Disk
import ScriptStats.Proofs.Analysis.Job
import ScriptStats.Proofs.Program
import ScriptStats.Session.Host

/-!
# Sessions at a moment

What sessions do while nobody else changes the files. Their caches are on a disk of their own, out
of sight of the analysis.
-/

namespace ScriptStats

/-- What the world tells a session as long as it does not change. -/
structure Moment where
  isDirectory : Path → Except FileError Bool
  list : Path → Except FileError (List Entry)
  read : Path → Except FileError Bytes
  signature : Path → Except FileError Signature
  identity : Path → Except FileError String
  directoryBound : Nat
  settings : Path → Except SettingsFailure Settings
  time : String

/-- A session at work, and the disk on which the caches are kept. -/
structure Desk where
  session : Session
  disk : Disk

namespace Desk

abbrev Act := ExceptT Failure (StateM Desk)

instance : MonadStateOf Session Act where
  get := do return (← getThe Desk).session
  set session := modifyThe Desk fun desk => { desk with session }
  modifyGet f := do
    let desk ← getThe Desk
    let (a, session) := f desk.session
    set { desk with session }
    return a

/-- A failure to write leaves on the disk what was done before it. -/
def changeDisk (change : Disk.Change Unit) : Act (Except FileError Unit) := do
  let desk ← getThe Desk
  let (outcome, disk) := change.run.run desk.disk
  set { desk with disk }
  return outcome

def withCache (desk : Desk) (cache : Option Cache) : Desk :=
  { desk with session := { desk.session with cache } }

end Desk

namespace Moment

/-- The world as a session finds it at that moment. Caches can hold `depth` levels of JSON. -/
def host (moment : Moment) (depth : Nat) : Host Desk.Act where
  isDirectory path := return moment.isDirectory path
  list path := return moment.list path
  read path := return moment.read path
  signature path := return moment.signature path
  identity path := return moment.identity path
  directoryBound := return moment.directoryBound
  settings path := return moment.settings path
  readCache path := return (← getThe Desk).disk.read path
  writeCache path text := Desk.changeDisk (Disk.writeText path text)
  cacheDepth := depth
  time := return moment.time
  log _ := return ()

/-- Answers a job for which nothing is remembered. -/
def answer (moment : Moment) : (request : Request) → Except Failure request.Reply
  | .list path => Session.possible (moment.list path)
  | .read path => Session.possible (moment.read path)
  | .signature path => Session.possible (moment.signature path)
  | .identity path => Session.required (moment.identity path)
  | .directoryBound => .ok moment.directoryBound
  | .lookUp _ _ => .ok none
  | .remember _ _ _ => .ok ()
  | .note _ => .ok ()

/-- What a job comes to if nothing is remembered. -/
def eval {α : Type} (moment : Moment) (job : Job α) : Except Failure α :=
  job.run moment.answer

end Moment

/-! ## Single steps -/

open Program

namespace Desk

@[simp]
theorem outcome_get (desk : Desk) :
    outcome (getThe Session : Act Session) desk = (.ok desk.session, desk) :=
  rfl

@[simp]
theorem outcome_set (session : Session) (desk : Desk) :
    outcome (set session : Act PUnit) desk = (.ok ⟨⟩, { desk with session }) :=
  rfl

@[simp]
theorem outcome_possible {α : Type} (found : Except FileError α) (desk : Desk) :
    outcome (Session.possible found : Act (Except FileError α)) desk =
      (Session.possible found, desk) := by
  cases found with
  | ok a => rfl
  | error e => cases hrefusal : e.isRefusal <;> simp [Session.possible, hrefusal] <;> rfl

@[simp]
theorem outcome_required {α : Type} (found : Except FileError α) (desk : Desk) :
    outcome (Session.required found : Act α) desk = (Session.required found, desk) := by
  cases found <;> rfl

end Desk

/-- A reply of the files is what they hold. -/
theorem Session.possible_eq_ok {α : Type} {found reply : Except FileError α}
    (h : (possible found : Except Failure (Except FileError α)) = .ok reply) : reply = found := by
  cases found with
  | ok a => exact (Except.ok.inj h).symm
  | error e =>
    unfold possible at h
    dsimp only at h
    split at h
    next => exact (Except.ok.inj h).symm
    next => cases h

end ScriptStats
