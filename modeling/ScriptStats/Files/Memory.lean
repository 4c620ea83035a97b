import ScriptStats.Files.Basic

/-!
# Files in memory

A file system that is built from entries one by one. A directory lists its names in the order in
which they came. An alias stands for its target wherever it begins a path.
-/

namespace ScriptStats

/-- Puts a value under a key; a key that is there already keeps its place. -/
def putKey {α : Type} (pairs : List (String × α)) (key : String) (value : α) :
    List (String × α) :=
  if pairs.any (·.1 = key) then pairs.map fun p => if p.1 = key then (key, value) else p
  else pairs ++ [(key, value)]

def dropKey {α : Type} (pairs : List (String × α)) (key : String) : List (String × α) :=
  pairs.filter (·.1 ≠ key)

structure MemoryFiles where
  directories : List (String × List String) := [("/", []), (".", [])]
  contents : List (String × Bytes) := []
  aliases : List (String × Path) := []
  versions : List (String × Nat) := []
  unlistable : List String := []
  unreadable : List String := []
  unsigned : List String := []

/-- What an entry puts at its path. -/
inductive MemoryItem where
  | directory
  | file (bytes : Bytes) (newVersion : Bool)
  | link (target : Path)
  | nothing

/-- An entry to be added. A flag that is given is set or cleared. -/
structure MemoryEntry where
  path : Path
  item : MemoryItem
  unlistable : Option Bool := none
  unreadable : Option Bool := none
  unsigned : Option Bool := none

namespace MemoryFiles

def addDirectory (fs : MemoryFiles) (key : String) : MemoryFiles :=
  if fs.directories.any (·.1 = key) then fs
  else { fs with directories := fs.directories ++ [(key, [])] }

/-- Adds a name at the end of a listing unless it is there. -/
def listName (fs : MemoryFiles) (directory : String) (name : String) : MemoryFiles :=
  let names := (fs.directories.lookup directory).getD []
  if names.contains name then fs
  else { fs with directories := putKey fs.directories directory (names ++ [name]) }

/-- The ancestors of a path with the name that leads on from each, the outermost first. -/
def steps (p : Path) : List (Path × String) :=
  p.names.mapIdx fun i name => (⟨p.anchor, p.names.take i⟩, name)

def addSteps (fs : MemoryFiles) (p : Path) : MemoryFiles :=
  (steps p).foldl (fun fs (parent, name) => (fs.addDirectory parent.text).listName parent.text name)
    fs

def place (fs : MemoryFiles) (key : String) : MemoryItem → MemoryFiles
  | .directory => fs.addDirectory key
  | .file bytes newVersion =>
    let version := (fs.versions.lookup key).getD 0
    { fs with contents := putKey fs.contents key bytes
              versions := putKey fs.versions key (if newVersion then version + 1 else version) }
  | .link target => { fs with aliases := putKey fs.aliases key target }
  | .nothing => fs

def setFlag (flagged : List String) (key : String) : Option Bool → List String
  | some true => key :: flagged
  | some false => flagged.filter (· ≠ key)
  | none => flagged

def add (fs : MemoryFiles) (entry : MemoryEntry) : MemoryFiles :=
  let key := entry.path.text
  let placed := (fs.addSteps entry.path).place key entry.item
  { placed with
    unlistable := setFlag placed.unlistable key entry.unlistable
    unreadable := setFlag placed.unreadable key entry.unreadable
    unsigned := setFlag placed.unsigned key entry.unsigned }

def ofEntries (entries : List MemoryEntry) : MemoryFiles :=
  entries.foldl add {}

/-- Removes a path; what lies below it stays. -/
def remove (fs : MemoryFiles) (p : Path) : MemoryFiles :=
  let key := p.text
  let directories := fs.directories.map fun (d, names) =>
    if d = p.parent.text then (d, names.filter (· ≠ p.name)) else (d, names)
  { fs with
    directories := dropKey directories key
    contents := dropKey fs.contents key
    aliases := dropKey fs.aliases key }

/-! ## Aliases -/

/-- The path with the shortest part that is an alias replaced by its target. -/
def replaceAlias? (fs : MemoryFiles) (p : Path) : Option Path :=
  let least := if p.isAbsolute then 0 else 1
  (List.range' least (p.names.length + 1 - least)).findSome? fun n =>
    (fs.aliases.lookup (Path.text ⟨p.anchor, p.names.take n⟩)).map
      (·.join ⟨.here, p.names.drop n⟩)

def followAliases (fs : MemoryFiles) : Nat → Path → Path
  | 0, p => p
  | n + 1, p =>
    match fs.replaceAlias? p with
    | some q => followAliases fs n q
    | none => p

/-- How many aliases are replaced at most. -/
def aliasLimit : Nat := 40

def real (fs : MemoryFiles) (p : Path) : Path :=
  if fs.aliases = [] then p else fs.followAliases aliasLimit p

/-! ## Requests -/

def isDirectory (fs : MemoryFiles) (p : Path) : Bool :=
  let key := (fs.real p).text
  fs.directories.any (·.1 = key)

def list (fs : MemoryFiles) (p : Path) : Except FileError (List Entry) :=
  let refusal : Except FileError (List Entry) := .error (.refused ("cannot list " ++ p.text))
  if fs.unlistable.contains p.text then refusal
  else match fs.directories.lookup (fs.real p).text with
    | some names => .ok (names.map fun n => ⟨n, p.child n, fs.isDirectory (p.child n)⟩)
    | none => refusal

def read (fs : MemoryFiles) (p : Path) : Except FileError Bytes :=
  let refusal : Except FileError Bytes := .error (.refused ("cannot read " ++ p.text))
  if fs.unreadable.contains p.text then refusal
  else match fs.contents.lookup (fs.real p).text with
    | some bytes => .ok bytes
    | none => refusal

def signature (fs : MemoryFiles) (p : Path) : Except FileError Signature :=
  let refusal : Except FileError Signature :=
    .error (.refused ("signature unavailable for " ++ p.text))
  if fs.unsigned.contains p.text then refusal
  else match fs.contents.lookup (fs.real p).text with
    | some bytes => .ok ⟨bytes.length, (fs.versions.lookup (fs.real p).text).getD 0⟩
    | none => refusal

def identity (fs : MemoryFiles) (p : Path) : String :=
  (fs.real p).text

def directoryCount (fs : MemoryFiles) : Nat :=
  fs.directories.length

end MemoryFiles

end ScriptStats
