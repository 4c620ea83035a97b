import ScriptStats.Files.Basic
import ScriptStats.Log
import ScriptStats.Stats.Basic

/-!
# Jobs

An analysis asks a file system and a memory of earlier results. A `Job` is the tree of all that it
may ask: a request, and for every reply how it goes on. What replies mean is left to whoever runs
the job, so several jobs may run on shared files in any interleaving.
-/

namespace ScriptStats

inductive Request where
  | list (directory : Path)
  | read (file : Path)
  | signature (file : Path)
  | identity (directory : Path)
  /-- How many directories a walk may enter at most. -/
  | directoryBound
  /-- The statistics remembered for a file as long as its signature is the given one. -/
  | lookUp (key signature : String)
  | remember (key signature : String) (stats : FileStats)
  | note (record : LogRecord)

/-- What a request is answered with. -/
abbrev Request.Reply : Request → Type
  | list _ => Except FileError (List Entry)
  | read _ => Except FileError Bytes
  | signature _ => Except FileError Signature
  | identity _ => String
  | directoryBound => Nat
  | lookUp _ _ => Option FileStats
  | remember _ _ _ => Unit
  | note _ => Unit

inductive Job (α : Type) where
  | done (result : α)
  | ask (request : Request) (next : request.Reply → Job α)

namespace Job

variable {α β : Type}

protected def bind : Job α → (α → Job β) → Job β
  | done a, f => f a
  | ask r next, f => ask r fun reply => (next reply).bind f

instance : Monad Job where
  pure := done
  bind := Job.bind

/-- Asks a single request. -/
def send (request : Request) : Job request.Reply :=
  ask request done

def note (source : LogSource) (level : LogLevel) (message : String) : Job Unit :=
  send (.note ⟨source, level, message⟩)

/-- Runs a job to its end. -/
def run {m : Type → Type} [Monad m] (answer : (request : Request) → m request.Reply) :
    Job α → m α
  | done a => pure a
  | ask r next => do
    let reply ← answer r
    run answer (next reply)

end Job

end ScriptStats
