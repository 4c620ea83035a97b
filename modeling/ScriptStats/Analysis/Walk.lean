import ScriptStats.Analysis.Job
import Std.Data.ExtTreeSet

/-!
# Walking a directory tree

A walk finds the directories below a root, each before those it holds. It keeps a stack of the
directories that are due and the set of the identities it has met. A directory is entered once,
however many names lead to it, so that links which lead back do no harm.
-/

namespace ScriptStats

structure WalkOptions where
  /-- The names of the directories that are left out. -/
  excluded : List String := []
  /-- How the name of a script ends. -/
  extension : String := ".nani"
  /-- How many levels below the root are entered. -/
  maxDepth : Option Int := none
  deriving DecidableEq, Repr

/-- The entries of a directory that count: the directories to be entered and the scripts. -/
structure Listing where
  directory : Path
  entries : List Entry
  deriving DecidableEq, Repr

namespace Listing

def directories (listing : Listing) : List Entry :=
  listing.entries.filter (·.isDirectory)

def scripts (listing : Listing) : List Entry :=
  listing.entries.filter (!·.isDirectory)

end Listing

namespace Walk

abbrev Identities := Std.ExtTreeSet String

def isScriptName (options : WalkOptions) (name : String) : Bool :=
  options.extension.toList.isSuffixOf name.toList

def tooDeep (options : WalkOptions) (depth : Nat) : Bool :=
  match options.maxDepth with
  | some limit => decide (limit ≤ depth)
  | none => false

def log (message : String) : Job Unit :=
  Job.note .aggregator .debug message

/-- Whether a directory met at `depth` is to be entered. It is not when it is left out by name,
lies too deep or has been met before. -/
def admits (options : WalkOptions) (depth : Nat) (met : Identities) (entry : Entry) :
    Job (Bool × Identities) := do
  if options.excluded.contains entry.name then
    log ("Skipping excluded directory " ++ entry.path.text)
    return (false, met)
  if tooDeep options depth then
    log ("Max depth reached at " ++ entry.path.text)
    return (false, met)
  let identity ← Job.send (.identity entry.path)
  if met.contains identity then
    log ("Skipping already visited directory " ++ entry.path.text)
    return (false, met)
  return (true, met.insert identity)

/-- The entries that count, in order. -/
def keep (options : WalkOptions) (depth : Nat) : Identities → List Entry →
    Job (List Entry × Identities)
  | met, [] => return ([], met)
  | met, entry :: entries => do
    if entry.isDirectory then
      let (admitted, met) ← admits options depth met entry
      let (kept, met) ← keep options depth met entries
      return (if admitted then entry :: kept else kept, met)
    else
      let (kept, met) ← keep options depth met entries
      return (if isScriptName options entry.name then entry :: kept else kept, met)

def list (directory : Path) : Job (List Entry) := do
  match ← Job.send (.list directory) with
  | .ok entries => return entries
  | .error e =>
    Job.note .aggregator .warning ("Could not list " ++ directory.text ++ ": " ++ e.message)
    return []

/-- Enters the directories that are due, the first one and all below it before the next. -/
def enter (options : WalkOptions) : Nat → Identities → List (Path × Nat) → Job (List Listing)
  | 0, _, _ => return []
  | _ + 1, _, [] => return []
  | fuel + 1, met, (directory, depth) :: due => do
    let entries ← list directory
    let (kept, met) ← keep options depth met entries
    let listing : Listing := ⟨directory, kept⟩
    let below := listing.directories.map fun entry => (entry.path, depth + 1)
    let more ← enter options fuel met (below ++ due)
    return listing :: more

end Walk

/-- The listings of all directories below `root`, in the order in which they are found. -/
def walk (options : WalkOptions) (root : Path) : Job (List Listing) := do
  let bound ← Job.send .directoryBound
  let identity ← Job.send (.identity root)
  let listings ← Walk.enter options (bound + 1) ((∅ : Walk.Identities).insert identity) [(root, 0)]
  Walk.log ("Walked " ++ toString listings.length ++ " directories under " ++ root.text)
  return listings

end ScriptStats
