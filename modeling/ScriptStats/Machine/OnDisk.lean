import ScriptStats.Session.OnDisk
import ScriptStats.Settings.OnDisk
import ScriptStats.Machine.Basic

/-!
# A machine with one disk
-/

namespace ScriptStats.DiskWorld

/-- Makes the directory of the log file and opens the file behind its end. -/
def openLogFile (path : Path) : Disk.Change Unit := do
  Disk.ensureDirectories path.parent
  Disk.append ((← get).absolutePath path) []

def openLog (verbose : Bool) (file : Option Path) : Act (Except FileError Unit) := do
  modifyThe DiskWorld fun w => { w with verbose, logFile := none }
  match file with
  | none => return .ok ()
  | some path =>
    match ← changeDisk (openLogFile path) with
    | .error e => return .error e
    | .ok () =>
      modifyThe DiskWorld fun w => { w with logFile := some (w.disk.absolutePath path) }
      return .ok ()

/-- A machine that can read caches of so many levels of JSON. -/
def machine (cacheDepth : Nat) : Machine Act where
  toHost := { host Settings.load with cacheDepth }
  isFile path := do return (← getThe DiskWorld).disk.isFile path
  resolve path := do return (← getThe DiskWorld).disk.resolve path
  currentDirectory := do return Disk.pathOf (← getThe DiskWorld).disk.current
  openLog := openLog
  serve host port := modifyThe DiskWorld fun w => { w with served := w.served ++ [(host, port)] }

end ScriptStats.DiskWorld
