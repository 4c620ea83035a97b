import ScriptStats.Files.Disk
import ScriptStats.Session.Host

/-!
# Sessions on a disk

The scripts, the settings and the cache are all on one disk, and so is the log file if there is
one.
-/

namespace ScriptStats

structure DiskWorld where
  disk : Disk
  session : Session := { root := Disk.pathOf [], settings := { root := Disk.pathOf [] } }
  /-- The time of all changes of the cache. -/
  time : String := ""
  /-- The records written, the latest first. -/
  log : List LogRecord := []
  /-- Where records go as they are written, each behind the time of the log. -/
  logFile : Option Path := none
  logTime : String := ""
  verbose : Bool := true
  /-- Whether a link to a directory counts as a directory. -/
  followLinks : Bool := true
  /-- The addresses and ports at which the service has run. -/
  served : List (Option String × Option Int) := []

namespace DiskWorld

abbrev Act := ExceptT Failure (StateM DiskWorld)

instance : MonadStateOf Session Act where
  get := do return (← getThe DiskWorld).session
  set session := modifyThe DiskWorld fun w => { w with session }
  modifyGet f := do
    let w ← getThe DiskWorld
    let (a, session) := f w.session
    set { w with session }
    return a

/-- A failure to write leaves on the disk what was done before it. -/
def changeDisk (change : Disk.Change Unit) : Act (Except FileError Unit) := do
  let w ← getThe DiskWorld
  let (outcome, disk) := change.run.run w.disk
  set { w with disk }
  return outcome

def writeRecord (record : LogRecord) : Act Unit := do
  let w ← getThe DiskWorld
  if record.isShown w.verbose then
    set { w with log := record :: w.log }
    match w.logFile with
    | none => return
    | some path =>
      let line := record.fileLine w.logTime ++ "\n"
      let _ ← changeDisk (Disk.append path (Text.Utf8.encode line.toList))

def host (settings : Disk → Path → Except SettingsFailure Settings) : Host Act where
  isDirectory path := do return (← getThe DiskWorld).disk.isDirectory path
  list path := do
    let w ← getThe DiskWorld
    return w.disk.list w.followLinks path
  read path := do return (← getThe DiskWorld).disk.read path
  signature path := do return (← getThe DiskWorld).disk.signature path
  identity path := do return ((← getThe DiskWorld).disk.realPath path).map Path.text
  directoryBound := do return (← getThe DiskWorld).disk.directoryCount
  settings root := do return settings (← getThe DiskWorld).disk root
  readCache path := do return (← getThe DiskWorld).disk.read path
  writeCache path text := changeDisk (Disk.writeText path text)
  cacheDepth := 980
  time := do return (← getThe DiskWorld).time
  log := writeRecord

end DiskWorld

end ScriptStats
