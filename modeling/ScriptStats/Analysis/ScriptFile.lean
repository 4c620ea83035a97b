import ScriptStats.Analysis.Job
import ScriptStats.Script

/-!
# The statistics of a script file

A file that cannot be read or decoded counts as empty. With a cache the signature of the file is
taken before its bytes are read; without a signature the cache is left alone.
-/

namespace ScriptStats

namespace ScriptFile

def readStats (path : Path) : Job (Option FileStats) := do
  match ← Job.send (.read path) with
  | .error e =>
    Job.note .analyzer .warning ("Could not read " ++ path.text ++ ": " ++ e.message)
    return none
  | .ok bytes =>
    match Script.decode bytes with
    | .error f =>
      Job.note .analyzer .warning
        ("Could not decode " ++ path.text ++ " as UTF-8: " ++ f.message)
      return none
    | .ok text => return some (Script.stats text)

/-- The signature of the file as text, if it can be taken. -/
def signature (path : Path) : Job (Option String) := do
  match ← Job.send (.signature path) with
  | .ok s => return some s.text
  | .error _ => return none

def freshStats (path : Path) : Job FileStats := do
  return (← readStats path).getD {}

def cachedStats (path : Path) : Job FileStats := do
  match ← signature path with
  | none => freshStats path
  | some signature =>
    match ← Job.send (.lookUp path.text signature) with
    | some stats =>
      Job.note .analyzer .debug ("Reusing cached stats for " ++ path.text)
      return stats
    | none =>
      match ← readStats path with
      | none => return {}
      | some stats =>
        Job.send (.remember path.text signature stats)
        return stats

/-- Analyses the file at `path`, with the help of a cache or without. -/
def stats (withCache : Bool) (path : Path) : Job FileStats :=
  if withCache then cachedStats path else freshStats path

end ScriptFile

end ScriptStats
