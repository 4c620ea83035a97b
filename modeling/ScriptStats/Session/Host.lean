import ScriptStats.Analysis.Aggregation
import ScriptStats.Session.Basic
import ScriptStats.Settings.Failure
import ScriptStats.Stats.Writable

/-!
# Sessions at work

A host gives a session its files, its settings and a place for its cache. The operations of a
session are written over any host.
-/

namespace ScriptStats

/-- Why an operation of a session comes to nothing. -/
inductive Failure where
  | workspaceMissing (root : Path)
  /-- Neither a text nor the path of a document was given. -/
  | documentMissing
  | settings (failure : SettingsFailure)
  | cache (failure : Cache.LoadFailure)
  | files (error : FileError)
  /-- A number is too long to be written out. -/
  | longNumber
  /-- A log file without a name was asked for. -/
  | logNameless
  /-- A directory without a name was to be left out. -/
  | excludeNameless

namespace Failure

def message : Failure → String
  | workspaceMissing root => "Workspace path not found: " ++ root.text
  | documentMissing => "document_stats requires a path or text"
  | settings failure => failure.message
  | cache (.undecodable fault) => fault.message
  | cache (.unreadable error) => error.message
  | cache (.inaccessible error) => error.message
  | files error => error.message
  | longNumber => longNumberMessage
  | logNameless => "'list' object has no attribute 'parent'"
  | excludeNameless => "unhashable type: 'list'"

end Failure

/-- The requests of a session to the world around it. -/
structure Host (m : Type → Type) where
  isDirectory : Path → m (Except FileError Bool)
  list : Path → m (Except FileError (List Entry))
  read : Path → m (Except FileError Bytes)
  signature : Path → m (Except FileError Signature)
  identity : Path → m (Except FileError String)
  directoryBound : m Nat
  /-- The settings of the workspace that the path belongs to. -/
  settings : Path → m (Except SettingsFailure Settings)
  readCache : Path → m (Except FileError Bytes)
  writeCache : Path → RawText → m (Except FileError Unit)
  /-- How many levels of JSON can be read from a cache. -/
  cacheDepth : Nat
  time : m String
  log : LogRecord → m Unit

namespace Session

variable {m : Type → Type} [Monad m]

def note (host : Host m) (level : LogLevel) (message : String) : m Unit :=
  host.log ⟨.session, level, message⟩

section Opening

variable [MonadExceptOf Failure m]

/-- The settings for `root`. Invalid ones give way to the defaults. -/
def loadSettings (host : Host m) (root : Path) : m Settings := do
  match ← host.settings root with
  | .ok settings => return settings
  | .error (.invalid message) =>
    note host .warning ("Ignoring invalid configuration: " ++ message)
    return { root }
  | .error failure => throw (.settings failure)

/-- The outcome of a request to the files, which must not fail. -/
def required {α : Type} (outcome : Except FileError α) : m α :=
  match outcome with
  | .ok a => return a
  | .error e => throw (.files e)

/-- A session on a workspace. -/
def start (host : Host m) (root : Path) (extraExcludes : List String := [])
    (useCache : Option Bool := none) : m Session := do
  let root ← required root.expanded
  let settings ← loadSettings host root
  return { root, settings, extraExcludes, useCache }

end Opening

variable [MonadStateOf Session m] [MonadExceptOf Failure m]

/-- The outcome of a request to the files, which may be refused but not be impossible. -/
def possible {α : Type} (outcome : Except FileError α) : m (Except FileError α) :=
  match outcome with
  | .ok a => return .ok a
  | .error e => if e.isRefusal then return .error e else throw (.files e)

/-- Answers the requests of an analysis with the cache at hand. -/
def answer (host : Host m) : (request : Request) → m request.Reply
  | .list path => do possible (← host.list path)
  | .read path => do possible (← host.read path)
  | .signature path => do possible (← host.signature path)
  | .identity path => do required (← host.identity path)
  | .directoryBound => host.directoryBound
  | .lookUp key signature => do
    return (← getThe Session).cache.bind (·.get? key signature)
  | .remember key signature stats => do
    let time ← host.time
    modifyThe Session (mapCache (·.store key signature stats time))
  | .note record => host.log record

/-- Answers the requests of an analysis with the cache of that number, at hand or given up. -/
def answerFrom (host : Host m) (number : Nat) : (request : Request) → m request.Reply
  | .lookUp key signature => do
    return ((← getThe Session).cacheAt? number).bind (·.get? key signature)
  | .remember key signature stats => do
    let time ← host.time
    modifyThe Session (mapCacheAt number (·.store key signature stats time))
  | request => answer host request

/-- Loads the cache if there is to be one under these settings and none is at hand; tells whether there
is to be one. -/
def openCacheFor (host : Host m) (settings : Settings) : m Bool := do
  let session ← getThe Session
  if !session.allowsCache settings then return false
  if session.cache.isSome then return true
  let path := settings.cachePath
  match Cache.load host.cacheDepth path (← host.readCache path) with
  | .ok cache =>
    modifyThe Session fun s => { s with cache := some cache }
    return true
  | .error failure => throw (.cache failure)

/-- Loads the cache if it is enabled and not loaded yet; tells whether it is enabled. -/
def openCache (host : Host m) : m Bool := do
  openCacheFor host (← getThe Session).settings

/-- Drops what the tree does not hold from the cache and writes the cache if need be. -/
def persistCache (host : Host m) (tree : Node) : m Unit := do
  modifyThe Session (mapCache (·.prune tree.scriptPaths))
  match (← getThe Session).cache.bind Cache.due? with
  | none => return
  | some (path, text) =>
    match ← host.writeCache path text with
    | .ok () => modifyThe Session (mapCache Cache.written)
    | .error e =>
      if e.isRefusal then note host .warning ("Could not write stats cache: " ++ e.message)
      else throw (.files e)

/-- What an analysis under these settings goes by. Which directories are left out is up to the session. -/
def optionsUnder (session : Session) (settings : Settings) : WalkOptions where
  excluded := session.excludedDirs
  extension := settings.extension
  maxDepth := settings.maxDepth

def options (session : Session) : WalkOptions :=
  session.optionsUnder session.settings

def totalsMessage (stats : AggregateStats) : String :=
  "Analyzed " ++ toString stats.fileCount ++ " scripts: " ++ toString stats.bodyChars
    ++ " characters, " ++ toString stats.wordCount ++ " words, " ++ toString stats.speakers.size
    ++ " speakers"

/-- Tells the log of a fresh analysis. A record with a number that is too long to be written is lost. -/
def noteTotals (host : Host m) (stats : AggregateStats) : m Unit :=
  if (Stats.aggregate stats).hasWritableRow then note host .info (totalsMessage stats) else pure ()

/-- Takes a number for the refresh of a workspace that is there. The refresh goes by the settings of that
time to its end. -/
def enter (host : Host m) : m (Nat × Settings) := do
  let root := (← getThe Session).root
  unless ← required (← host.isDirectory root) do throw (.workspaceMissing root)
  let (generation, begun) := (← getThe Session).begin
  set begun
  return (generation, begun.settings)

/-- Analyses the workspace for the refresh of the given number and publishes the result unless a
newer refresh has begun. The analysis keeps to the cache that it begins with. -/
def finishRefresh (host : Host m) (generation : Nat) (settings : Settings) (withCache : Bool) :
    m (Option Snapshot) := do
  let session ← getThe Session
  let tree ← (buildTree (session.optionsUnder settings) withCache session.root).run
    (answerFrom host session.cacheNumber)
  let (snapshot, session) := (← getThe Session).publish generation tree
  set session
  match snapshot with
  | none =>
    note host .debug ("Discarding refresh " ++ toString generation ++ " superseded by "
      ++ toString session.generation)
    return none
  | some snapshot =>
    persistCache host tree
    noteTotals host snapshot.stats
    return some snapshot

/-- Analyses the workspace anew. -/
def refresh (host : Host m) : m (Option Snapshot) := do
  let (generation, settings) ← enter host
  let withCache ← openCacheFor host settings
  finishRefresh host generation settings withCache

def reload (host : Host m) : m Settings := do
  let settings ← loadSettings host (← getThe Session).root
  modifyThe Session (reconfigure · settings)
  return settings

/-- Makes ready for the refresh that a trigger asks for. What the cache knows about a saved document
is dropped, even if the signature of the file stays the same. -/
def prepare (host : Host m) (trigger : Trigger) (path : Option Path) : m Unit := do
  match trigger, path with
  | .configurationChanged, _ => let _ ← reload host
  | .documentSaved, some path =>
    if ← openCache host then modifyThe Session (mapCache (·.invalidate path.text))
  | _, _ => pure ()

/-- Reacts to a trigger. -/
def handle (host : Host m) (trigger : Trigger) (path : Option Path) : m (Option Snapshot) := do
  note host .debug ("Received " ++ trigger.name)
  prepare host trigger path
  refresh host

/-- The statistics of a document: of its text if that is given, else of the file at its path. -/
def document (host : Host m) (path : Option Path) (text : Option (List Char)) : m FileStats := do
  match text, path with
  | some text, _ => return Script.stats text
  | none, none => throw .documentMissing
  | none, some path =>
    let withCache ← openCache host
    let number := (← getThe Session).cacheNumber
    (ScriptFile.stats withCache path).run (answerFrom host number)

end Session

end ScriptStats
