import ScriptStats.Files.Basic
import ScriptStats.Json.Parser
import ScriptStats.Json.Printer
import ScriptStats.Stats.Basic
import Std.Data.ExtTreeMap

/-!
# The cache of statistics

The cache remembers the statistics of files, each under a key and together with the signature that
the file had. It is kept in a file of its own as JSON. A file that is not such a document is
taken for an empty cache, and what it says about a key counts only as far as it makes sense.
-/

namespace ScriptStats

/-! ## Statistics in the cache -/

namespace FileStats

def cachedFields (stats : FileStats) : List (String × Json) :=
  let count : Count → Json
    | .number n => .int n
    | .flag b => .bool b
  [("body_char_count", count stats.bodyChars),
   ("word_count", count stats.wordCount),
   ("speakers", .strings stats.speakers.toList),
   ("words", .strings stats.words),
   ("script_line_count", count stats.scriptLines)]

def toCached (stats : FileStats) : Json :=
  .record stats.cachedFields

def count? : Json → Option Count
  | .int n => some (.number n)
  | .bool b => some (.flag b)
  | _ => none

def strings? (value : Json) : Option (List String) := do
  (← value.asArray?).mapM Json.asString?

/-- Reads statistics back. All parts have to be there but the number of script lines. -/
def ofCached? (value : Json) : Option FileStats := do
  let bodyChars ← count? (← value.field? "body_char_count")
  let wordCount ← count? (← value.field? "word_count")
  let scriptLines ← count? ((value.field? "script_line_count").getD (.int 0))
  let speakers ← strings? (← value.field? "speakers")
  let words ← strings? (← value.field? "words")
  return { bodyChars, wordCount, speakers := NameSet.ofList speakers, words, scriptLines }

/-- Whether the speakers and the words are made of characters only. -/
def hasTexts (value : Json) : Bool :=
  (value.field? "speakers").all Json.isText && (value.field? "words").all Json.isText

end FileStats

/-! ## Entries -/

/-- What is remembered under a key. Fields of no meaning to the cache are kept. -/
structure CacheEntry where
  signature : RawText
  stats : Json
  others : List (RawText × Json) := []

namespace CacheEntry

def ofStats (signature : String) (stats : FileStats) (time : String) : CacheEntry :=
  ⟨signature, stats.toCached, [("updated_at", .string time)]⟩

/-- An entry has to have a signature and statistics of any kind. -/
def ofJson? (value : Json) : Option CacheEntry :=
  match value with
  | .object fields => do
    let signature ← (← value.field? "signature").asRawText?
    let stats ← value.field? "stats"
    let others := fields.filter fun (name, _) =>
      name ≠ RawText.ofString "signature" && name ≠ RawText.ofString "stats"
    return ⟨signature, stats, others⟩
  | _ => none

def toJson (entry : CacheEntry) : Json :=
  .object ((RawText.ofString "signature", .string entry.signature)
    :: (RawText.ofString "stats", entry.stats) :: entry.others)

end CacheEntry

abbrev CacheEntries := Std.ExtTreeMap RawText CacheEntry

/-- A cache and the file that it is kept in. It is dirty when the file is behind. -/
structure Cache where
  path : Option Path
  entries : CacheEntries := ∅
  dirty : Bool := false

namespace Cache

def get? (cache : Cache) (key signature : String) : Option FileStats := do
  let entry ← cache.entries[RawText.ofString key]?
  if entry.signature = RawText.ofString signature then FileStats.ofCached? entry.stats else none

/-- Whether what is remembered under a key is made of characters only. -/
def hasTexts (cache : Cache) (key : String) : Bool :=
  cache.entries[RawText.ofString key]?.all fun entry => FileStats.hasTexts entry.stats

def store (cache : Cache) (key signature : String) (stats : FileStats) (time : String) : Cache :=
  { cache with
    entries := cache.entries.insert key (CacheEntry.ofStats signature stats time)
    dirty := true }

def invalidate (cache : Cache) (key : String) : Cache :=
  if cache.entries.contains key then
    { cache with entries := cache.entries.erase key, dirty := true }
  else cache

def keys (cache : Cache) : List RawText :=
  cache.entries.keys

/-- Forgets all keys but the given ones. -/
def prune (cache : Cache) (kept : List String) : Cache :=
  let kept := kept.map RawText.ofString
  if cache.keys.all kept.contains then cache
  else
    { cache with
      entries := cache.entries.filter fun key _ => kept.contains key
      dirty := true }

/-! ## The file -/

def formatVersion : Int := 1

def document (entries : CacheEntries) : Json :=
  .record
    [("version", .int formatVersion),
     ("entries", .object (entries.toList.map fun (key, entry) => (key, entry.toJson)))]

/-- The contents of the file. -/
def fileText (cache : Cache) : RawText :=
  (document cache.entries).sortFields.prettyRaw

/-- The path and the contents to be written, if the file is behind. -/
def due? (cache : Cache) : Option (Path × RawText) :=
  if cache.dirty then cache.path.map (·, cache.fileText) else none

def written (cache : Cache) : Cache :=
  { cache with dirty := false }

/-- Numbers and truth values that equal the version stand for it. -/
def isFormatVersion : Json → Bool
  | .int n => n = formatVersion
  | .bool b => b
  | .float x => x.toInt? = some formatVersion
  | _ => false

def entriesOf (document : Json) : CacheEntries :=
  match document.field? "version", document.field? "entries" with
  | some version, some (.object fields) =>
    if isFormatVersion version then
      Std.ExtTreeMap.ofList <| fields.filterMap fun (key, value) =>
        (CacheEntry.ofJson? value).map (key, ·)
    else ∅
  | _, _ => ∅

/-- Why a cache cannot be loaded. -/
inductive LoadFailure where
  | undecodable (fault : Text.Utf8.Fault)
  | unreadable (error : Json.ReadError)
  | inaccessible (error : FileError)

/-- The entries in a file. `depth` is the most levels of JSON that can be read. -/
def entriesOfBytes (depth : Nat) (bytes : Bytes) : Except LoadFailure CacheEntries :=
  match Text.Utf8.decode bytes with
  | .error fault => .error (.undecodable fault)
  | .ok text =>
    match Json.parse depth text with
    | .ok document => .ok (entriesOf document)
    | .error (.malformed ..) => .ok ∅
    | .error e => .error (.unreadable e)

/-- The cache kept in a file. A file that the file system does not hand out is taken for empty. -/
def load (depth : Nat) (path : Path) (contents : Except FileError Bytes) :
    Except LoadFailure Cache := do
  match contents with
  | .ok bytes => return { path := some path, entries := ← entriesOfBytes depth bytes }
  | .error e => if e.isRefusal then return { path := some path } else throw (.inaccessible e)

end Cache

end ScriptStats
