import ScriptStats.CommandLine.Run
import ScriptStats.Service.Answer
import ScriptStats.Settings.OnDisk
import Std.Http
import Std.Time

/-!
# The program

Commands and the service on the files of this computer. What is to be done is decided elsewhere;
here it is handed on to the operating system.
-/

namespace ScriptStats.Program

structure Process where
  session : Session := { root := Path.ofString "/", settings := { root := Path.ofString "/" } }
  verbose : Bool := false
  logFile : Option IO.FS.Handle := none

abbrev Act := ExceptT Failure (StateT Process IO)

instance : MonadStateOf Session Act where
  get := do return (← getThe Process).session
  set session := modifyThe Process fun p => { p with session }
  modifyGet f := do
    let p ← getThe Process
    let (a, session) := f p.session
    set { p with session }
    return a

/-! ## Files -/

def errorNumber : IO.Error → Nat
  | .noFileOrDirectory _ n _ => n.toNat
  | .noSuchThing _ n _ => n.toNat
  | .alreadyExists _ n _ => n.toNat
  | .inappropriateType _ n _ => n.toNat
  | _ => 0

def fileError (path : Path) (e : IO.Error) : FileError :=
  match FileFault.ofNumber? (errorNumber e) with
  | some fault => .fault fault path.text
  | none => .refused (toString e)

def attempt {α : Type} (path : Path) (act : IO α) : Act (Except FileError α) := do
  let outcome ← (act.toBaseIO : IO (Except IO.Error α))
  return outcome.mapError (fileError path)

/-- The place of a path, seen from the current directory. -/
def locate (path : Path) :=
  (fun here => here / path.text) <$> IO.currentDir

def isDirectory (path : Path) : IO Bool := do
  (← locate path).isDir

def isFile (path : Path) : IO Bool := do
  match ← (← locate path).metadata.toBaseIO with
  | .ok found => return found.type == .file
  | .error _ => return false

def list (path : Path) : IO (List Entry) := do
  let found ← (← locate path).readDir
  let entries ← found.toList.mapM fun e => do
    return ⟨e.fileName, path.child e.fileName, ← e.path.isDir⟩
  return entries.mergeSort fun a b => a.name ≤ b.name

def read (path : Path) : IO Bytes := do
  return (← IO.FS.readBinFile (← locate path)).toList

def signature (path : Path) : IO Signature := do
  let found ← (← locate path).metadata
  return ⟨found.byteSize.toNat, found.modified.sec * 1000000000 + found.modified.nsec.toNat⟩

/-- The real path of as much of a path as is there; the rest follows as it stands. -/
def realPathFrom (names : List String) : Nat → Path → IO Path
  | 0, path => return names.foldl Path.child path
  | n + 1, path => do
    match ← (IO.FS.realPath (← locate path)).toBaseIO with
    | .ok found => return names.foldl Path.child (Path.ofString found.toString)
    | .error _ => realPathFrom (path.name :: names) n path.parent

def realPath (path : Path) : IO Path := do
  let whole := (Path.ofString (← IO.currentDir).toString).join path
  realPathFrom [] whole.names.length whole

/-- Writes a text. A text that cannot be written down leaves an empty file. -/
def writeFile (path : Path) (text : RawText) : Act (Except FileError Unit) := do
  let encoded := Text.Utf8.encodeRaw text
  let written ← attempt path do
    IO.FS.createDirAll (← locate path.parent)
    IO.FS.writeBinFile (← locate path) (ByteArray.mk (encoded.toOption.getD []).toArray)
  return written.bind fun () => (encoded.mapError .unencodable).map fun _ => ()

def loadSettings (path : Path) : IO (Except SettingsFailure Settings) := do
  if path.asksForHome then return .error (.file .homeUnknown)
  let file ← realPath (Settings.fileFor (← isDirectory path) path)
  let root ← realPath file.parent
  if ← (← locate file).pathExists then
    match ← (read file).toBaseIO with
    | .ok bytes => return Settings.ofFile file root (.ok bytes)
    | .error e => return Settings.ofFile file root (.error (fileError file e))
  return .ok { root }

/-! ## The log -/

/-- The time in the given form. -/
def timeText (form : String) : IO String := do
  return (← Std.Time.PlainDateTime.now).format form

def writeRecord (record : LogRecord) : Act Unit := do
  let process ← getThe Process
  if record.isShown process.verbose then
    IO.eprintln record.consoleLine
    if let some file := process.logFile then
      file.putStrLn (record.fileLine (← timeText "uuuu-MM-dd HH:mm:ss,SSS"))
      file.flush

def openLog (verbose : Bool) (file : Option Path) : Act (Except FileError Unit) := do
  modifyThe Process fun p => { p with verbose, logFile := none }
  match file with
  | none => return .ok ()
  | some path =>
    let opened ← attempt path do
      IO.FS.createDirAll (← locate path.parent)
      IO.FS.Handle.mk (← locate path) .append
    match opened with
    | .error e => return .error e
    | .ok handle =>
      modifyThe Process fun p => { p with logFile := some handle }
      return .ok ()

/-! ## The service -/

def host : Host Act where
  isDirectory path := do return .ok (← isDirectory path)
  list path := attempt path (list path)
  read path := attempt path (read path)
  signature path := attempt path (signature path)
  identity path := do return .ok (← realPath path).text
  directoryBound := return 0x4000000000000000
  settings path := loadSettings path
  readCache path := attempt path (read path)
  writeCache := writeFile
  cacheDepth := 1000
  time := do return (← timeText "uuuu-MM-dd'T'HH:mm:ss.SSSSSS") ++ "Z"
  log := writeRecord

/-- A machine on which the service runs as it is told to. -/
def machineThat (serve : Option String → Option Int → Act Unit) : Machine Act where
  toHost := host
  isFile path := do return .ok (← isFile path)
  resolve path := do return .ok (← realPath path)
  currentDirectory := do return Path.ofString (← IO.currentDir).toString
  openLog := openLog
  serve := serve

open Std.Http Std.Async in
/-- Answers a request that has come in over the net. -/
def respond (process : Process) (request : Std.Http.Request Body.Stream) :
    ContextAsync (Std.Http.Response Body.Any) := do
  let body : ByteArray ← request.body.readAll
  let asked : Service.Request :=
    { method := toString request.line.method, address := toString request.line.uri
      body := body.toList }
  let act : Act Service.Response := Service.answer (machineThat fun _ _ => return) asked
  let answer ← match ← (act.run.run' process : IO (Except Failure Service.Response)) with
    | .ok answer => pure answer
    | .error failure => pure (Service.Response.ofFailure failure)
  let status := (Status.ofCode none answer.status.toUInt16).getD .internalServerError
  match answer.content with
  | .json value => (Response.withStatus status).json value.compact
  | .text text => (Response.withStatus status).text text

open Std.Http Std.Async in
/-- Answers requests until the program is stopped. -/
def serve (host : Option String) (port : Option Int) : Act Unit := do
  let process ← getThe Process
  match host.bind Std.Net.IPv4Addr.ofString, port with
  | none, _ => throw (.files (.refused ("Not an address: " ++ host.getD "")))
  | _, none => throw (.files (.refused "Not a port"))
  | some address, some port =>
    Async.block do
      let server ← Server.serve (.v4 ⟨address, port.toNat.toUInt16⟩)
        (Server.Handler.ofFn (respond process))
      server.waitShutdown

def machine : Machine Act := machineThat serve

end ScriptStats.Program

open ScriptStats in
def main (arguments : List String) : IO UInt32 := do
  let act : Program.Act CommandLine.Exit := CommandLine.run Program.machine arguments
  match ← act.run.run' {} with
  | .ok ending =>
    IO.print ending.output
    IO.eprint ending.errors
    return ending.code.toUInt32
  | .error failure =>
    IO.eprintln failure.message
    return 1
