import ScriptStats.Cache
import ScriptStats.Settings.Basic
import ScriptStats.Text.Quoted
import ScriptStats.Tree

/-!
# Sessions

A session keeps the latest analysis of a workspace. Every refresh takes a number when it begins.
When it ends and a newer one has begun in the meantime, its result is dropped. New settings come with
a new cache. Who is at work by then goes on with the old ones.
-/

namespace ScriptStats

/-- What makes a host ask for a fresh analysis. -/
inductive Trigger where
  | activeDocumentChanged
  | documentSaved
  | configurationChanged
  deriving DecidableEq, Repr

namespace Trigger

def all : List Trigger := [activeDocumentChanged, documentSaved, configurationChanged]

def name : Trigger → String
  | activeDocumentChanged => "active_document_changed"
  | documentSaved => "document_saved"
  | configurationChanged => "configuration_changed"

def ofName? (name : String) : Option Trigger :=
  all.find? (·.name = name)

/-- The wording for a name that no trigger bears. -/
def unknownName (name : String) : String :=
  Text.quoted name ++ " is not a valid TriggerEvent"

end Trigger

/-- The result of a refresh. -/
structure Snapshot where
  generation : Nat
  root : Path
  tree : Node

namespace Snapshot

/-- The totals of the tree. -/
def stats (snapshot : Snapshot) : AggregateStats :=
  AggregateStats.merge [snapshot.tree.stats]

end Snapshot

structure Session where
  root : Path
  settings : Settings
  /-- Directories that are left out besides those of the settings. -/
  extraExcludes : List String := []
  /-- Overrules the settings on whether to use a cache. -/
  useCache : Option Bool := none
  generation : Nat := 0
  snapshot : Option Snapshot := none
  /-- The cache at hand. -/
  cache : Option Cache := none
  /-- The caches that were given up, the first one first. -/
  former : List Cache := []

namespace Session

/-- The directories of the settings, and after them each of the others once. -/
def excludedDirs (session : Session) : List String :=
  session.extraExcludes.foldl (fun names name => if name ∈ names then names else names ++ [name])
    session.settings.excludeDirs

/-- Whether there is a cache under these settings. -/
def allowsCache (session : Session) (settings : Settings) : Bool :=
  session.useCache.getD settings.cache.enabled

def cacheEnabled (session : Session) : Bool :=
  session.allowsCache session.settings

/-- Gives up the cache at hand for another one. -/
def replaceCache (session : Session) (cache : Option Cache) : Session :=
  { session with cache, former := session.former ++ session.cache.toList }

/-- New settings start with an empty hand: the cache is loaded again when it is needed. -/
def reconfigure (session : Session) (settings : Settings) : Session :=
  { session.replaceCache none with settings }

/-- Begins a refresh, which takes the next number. -/
def begin (session : Session) : Nat × Session :=
  let generation := session.generation + 1
  (generation, { session with generation })

/-- Ends the refresh of the given number. Nothing comes out, and nothing changes, if a newer one
has begun. -/
def publish (generation : Nat) (tree : Node) (session : Session) : Option Snapshot × Session :=
  if generation = session.generation then
    let snapshot : Snapshot := ⟨generation, session.root, tree⟩
    (some snapshot, { session with snapshot := some snapshot })
  else (none, session)

def mapCache (f : Cache → Cache) (session : Session) : Session :=
  { session with cache := session.cache.map f }

/-- The number of the cache at hand, by which it is still found when it has been given up. -/
def cacheNumber (session : Session) : Nat :=
  session.former.length

/-- The cache of that number. -/
def cacheAt? (session : Session) (number : Nat) : Option Cache :=
  if number = session.cacheNumber then session.cache else session.former[number]?

/-- Changes the cache of that number. -/
def mapCacheAt (number : Nat) (f : Cache → Cache) (session : Session) : Session :=
  if number = session.cacheNumber then session.mapCache f
  else { session with former := session.former.modify number f }

end Session

namespace Node

/-- The paths of all scripts of a tree. -/
def scriptPaths : Node → List String
  | ⟨_, path, kind, _, children⟩ =>
    if kind = .directory then children.flatMap scriptPaths else [path]

end Node

end ScriptStats
