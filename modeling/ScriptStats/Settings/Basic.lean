import ScriptStats.Json.Basic
import ScriptStats.Path

/-!
# Settings

The settings of a workspace, with the values that hold where nothing else is said.
-/

namespace ScriptStats

structure CacheSettings where
  enabled : Bool := false
  path : Option Path := none
  deriving DecidableEq, Repr

structure Settings where
  root : Path
  excludeDirs : List String := []
  extension : String := ".nani"
  maxDepth : Option Int := none
  workers : Int := 1
  cache : CacheSettings := {}
  deriving DecidableEq, Repr

namespace Settings

def fileName : String := ".nanistats.yml"

/-- The directory for the files that the program keeps in a workspace. -/
def stateDirectory : String := ".nanistats"

def cacheFileName : String := "stats_cache.json"

/-- Where the cache is kept. -/
def cachePath (settings : Settings) : Path :=
  settings.cache.path.getD ((settings.root.child stateDirectory).child cacheFileName)

end Settings

end ScriptStats
