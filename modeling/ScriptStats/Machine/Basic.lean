import ScriptStats.Session.Host

/-!
# The machine that the program runs on

A command or a service asks for more than a session does: it finds out what a path that it was
given really means, and it opens the log.
-/

namespace ScriptStats

structure Machine (m : Type → Type) extends Host m where
  isFile : Path → m (Except FileError Bool)
  /-- The real path. -/
  resolve : Path → m (Except FileError Path)
  currentDirectory : m Path
  /-- Directs the records to the console, and to a file as well if one is given. -/
  openLog : (verbose : Bool) → (file : Option Path) → m (Except FileError Unit)
  /-- Runs the service until it ends. The host or the port may be left to say. -/
  serve : (host : Option String) → (port : Option Int) → m Unit

namespace Machine

variable {m : Type → Type} [Monad m]

section Paths

variable [MonadExceptOf Failure m]

/-- The path that a text stands for. -/
def ownPath (text : String) : m Path :=
  Session.required (Path.ofString text).expanded

def realPath (machine : Machine m) (text : String) : m Path := do
  Session.required (← machine.resolve (← ownPath text))

def hasFile (machine : Machine m) (path : Path) : m Bool := do
  Session.required (← machine.isFile path)

end Paths

/-- A path as it is seen from the current directory, or as it stands if it is not below it. -/
def shownPath (machine : Machine m) (path : Path) : m String := do
  return ((Path.below? (← machine.currentDirectory) path).getD path).text

end Machine

end ScriptStats
