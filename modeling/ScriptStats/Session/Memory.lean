import ScriptStats.Files.Disk
import ScriptStats.Files.Memory
import ScriptStats.Session.Host

/-!
# Sessions on files in memory

The scripts are files in memory, the cache is a file on a disk, and the settings are given. A
refresh may be overtaken from within: once, when a certain directory is listed, files are added
and another refresh runs to its end before the listing is handed out.
-/

namespace ScriptStats

/-- What happens when the directory of that very path is listed. -/
structure Reentry where
  directory : String
  added : List MemoryEntry

structure MemoryWorld where
  files : MemoryFiles
  disk : Disk
  session : Session
  settings : Path → Except SettingsFailure Settings
  /-- The time of all changes of the cache. -/
  time : String := ""
  /-- The files read so far and the records written, the latest first. -/
  reads : List Path := []
  log : List LogRecord := []
  reentry : Option Reentry := none
  inner : List (Option Snapshot) := []

namespace MemoryWorld

abbrev Act := ExceptT Failure (StateM MemoryWorld)

instance : MonadStateOf Session Act where
  get := do return (← getThe MemoryWorld).session
  set session := modifyThe MemoryWorld fun w => { w with session }
  modifyGet f := do
    let w ← getThe MemoryWorld
    let (a, session) := f w.session
    set { w with session }
    return a

/-- A failure to write leaves on the disk what was done before it. -/
def changeDisk (change : Disk.Change Unit) : Act (Except FileError Unit) := do
  let w ← getThe MemoryWorld
  let (outcome, disk) := change.run.run w.disk
  set { w with disk }
  return outcome

/-- Adds all files that may still come while a session is at work. -/
def allFiles (w : MemoryWorld) : MemoryFiles :=
  match w.reentry with
  | some reentry => reentry.added.foldl MemoryFiles.add w.files
  | none => w.files

def plainHost : Host Act where
  isDirectory path := do return .ok ((← getThe MemoryWorld).files.isDirectory path)
  list path := do return (← getThe MemoryWorld).files.list path
  read path := do
    modifyThe MemoryWorld fun w => { w with reads := path :: w.reads }
    return (← getThe MemoryWorld).files.read path
  signature path := do return (← getThe MemoryWorld).files.signature path
  identity path := do return .ok ((← getThe MemoryWorld).files.identity path)
  directoryBound := do return (← getThe MemoryWorld).allFiles.directoryCount
  settings root := do return (← getThe MemoryWorld).settings root
  readCache path := do return (← getThe MemoryWorld).disk.read path
  writeCache path text := changeDisk (Disk.writeText path text)
  cacheDepth := 981
  time := do return (← getThe MemoryWorld).time
  log record := modifyThe MemoryWorld fun w => { w with log := record :: w.log }

/-- A listing during which the reentry takes place if it is due. -/
def listReentering (path : Path) : Act (Except FileError (List Entry)) := do
  let listed ← plainHost.list path
  match (← getThe MemoryWorld).reentry, listed with
  | some reentry, .ok _ =>
    if path.text = reentry.directory then
      modifyThe MemoryWorld fun w => { w with files := w.allFiles, reentry := none }
      let snapshot ← Session.refresh plainHost
      modifyThe MemoryWorld fun w => { w with inner := w.inner ++ [snapshot] }
    return listed
  | _, _ => return listed

def host : Host Act :=
  { plainHost with list := listReentering }

end MemoryWorld

end ScriptStats
