import ScriptStats.CommandLine.Invocation
import ScriptStats.Json.Printer
import ScriptStats.Machine.Basic
import ScriptStats.Report.Text
import ScriptStats.Report.Writable

/-!
# Running a command

A scan reports on a directory, and a missing directory is a report as well, though the exit code
tells of it. A report names what it is about as seen from the current directory. Nothing is
reported if one of the counts is too long to be written.
-/

namespace ScriptStats.CommandLine

variable {m : Type → Type} [Monad m] [MonadStateOf Session m] [MonadExceptOf Failure m]

/-- Ends with a report that can be written. -/
def report (writable : Bool) (text : String) : m Exit := do
  unless writable do throw .longNumber
  return { code := 0, output := text }

def jsonReport (value : Json) : m Exit :=
  report value.hasWritableNumbers (value.pretty ++ "\n")

/-- Refreshes the session unless a directory without a name is to be left out. -/
def refresh (machine : Machine m) (o : ScanOptions) : m (Option Snapshot) := do
  if o.exclude.all Option.isSome then Session.refresh machine.toHost
  else
    let (_, settings) ← Session.enter machine.toHost
    let _ ← Session.openCacheFor machine.toHost settings
    throw .excludeNameless

def scan (machine : Machine m) (o : ScanOptions) : m Exit := do
  let root ← machine.realPath o.path
  let useCache := if o.noCache then some false else none
  set (← Session.start machine.toHost root (o.exclude.filterMap id) useCache)
  try
    match ← refresh machine o with
    | none => return { code := 1, errors := "nanistats scan was superseded\n" }
    | some { tree, .. } =>
      if o.asJson then return ← jsonReport (tree.toJson o.uniqueWords)
      let label ← machine.shownPath root
      report (Report.isWritable tree !o.summary)
        (Report.ofTree label tree o.uniqueWords !o.summary)
  catch
    | .workspaceMissing _ => return { code := 1, output := Report.unavailable root.text }
    | failure => throw failure

def file (machine : Machine m) (o : FileOptions) : m Exit := do
  let target ← machine.realPath o.path
  unless ← machine.hasFile target do
    return { code := 1, errors := "Script not found: " ++ o.path ++ "\n" }
  set (← Session.start machine.toHost target.parent)
  let stats := Stats.file (← Session.document machine.toHost (some target) none)
  if o.asJson then return ← jsonReport (stats.toJson o.uniqueWords)
  let label ← machine.shownPath target
  report stats.hasWritableSummary (Report.ofStats label stats o.uniqueWords)

/-- Opens the log. A log file without a name is noticed when the console is ready. -/
def openLog (machine : Machine m) (invocation : Invocation) : m Unit := do
  let file := match invocation.logTarget with
    | .file path => some path
    | _ => none
  Session.required (← machine.openLog invocation.verbose file)
  if invocation.logTarget = .nameless then throw .logNameless

/-- Does what an invocation asks for. The log is opened before anything else. -/
def Invocation.run (machine : Machine m) (invocation : Invocation) : m Exit := do
  openLog machine invocation
  match invocation.command with
  | .scan o => scan machine o
  | .file o => file machine o
  | .serve o =>
    machine.serve o.host o.port
    return { code := 0 }

/-- Runs the program with the given arguments. -/
def run (machine : Machine m) (arguments : List String) : m Exit :=
  match Invocation.ofArguments arguments with
  | .ok invocation => invocation.run machine
  | .error e => return e

end ScriptStats.CommandLine
