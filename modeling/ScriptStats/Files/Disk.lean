import ScriptStats.Files.Basic

/-!
# Disks

A disk holds directories, files and links. A link is a text that is read as a path from the
directory of the link. Finding a path follows at most `linkLimit` links; `realPath` follows any
number and leaves a loop as it stands. No file is created through a link that ends in a slash. In what
order a directory lists its names is up to the disk.
-/

namespace ScriptStats

inductive DiskItem where
  | directory
  | file (bytes : Bytes) (modified : Int)
  | link (target : String)
  deriving DecidableEq, Repr

/-- The names on the way from the root. -/
abbrev Place := List String

/-- An order in which names can be listed. -/
structure NameOrder where
  le : String → String → Bool
  trans : ∀ a b c, le a b → le b c → le a c
  total : ∀ a b, le a b || le b a
  antisymm : ∀ a b, le a b → le b a → a = b

def NameOrder.byCodePoints : NameOrder where
  le a b := a ≤ b
  trans a b c := by simpa using String.le_trans
  total a b := by simpa using String.le_total a b
  antisymm a b := by simpa using String.le_antisymm

/-- The root directory is always there. -/
structure Disk where
  items : List (Place × DiskItem) := []
  /-- The directory from which relative paths start. -/
  current : Place := []
  /-- The time of the next change. -/
  clock : Int := 1700000000000000000
  /-- The order in which each directory lists its names. -/
  order : Place → NameOrder := fun _ => .byCodePoints

namespace Disk

def item? (disk : Disk) (place : Place) : Option DiskItem :=
  if place = [] then some .directory else disk.items.lookup place

def start (disk : Disk) (absolute : Bool) : Place :=
  if absolute then [] else disk.current

/-! ## Finding a path -/

/-- The steps that the text of a link asks for. A slash at the end asks for a directory. -/
def linkSteps (target : String) : Bool × List String :=
  let names := (Text.pieces (· = '/') target.toList).map String.ofList
  let names := if names.getLast? = some "" then names ++ ["."] else names
  (target.toList.head? = some '/', names.filter (· ≠ ""))

/-- The steps to the directory that a link leads into, if its text ends with a name and a slash. -/
def slashedSteps? (target : String) : Option (List String) :=
  match (linkSteps target).2.reverse with
  | _ :: name :: outer =>
    if target.toList.getLast? = some '/' ∧ name ≠ "." ∧ name ≠ ".." then some outer.reverse
    else none
  | _ => none

/-- What becomes of a link at the end of a path. -/
inductive LastLink where
  | keep
  | follow
  /-- It is followed in order to create a file where it leads. -/
  | create
  deriving DecidableEq, Repr

def linkLimit : Nat := 40

/-- The most bytes that a name may have. -/
def nameLimit : Nat := 255

/-- The most bytes that a path may have. -/
def pathLimit : Nat := 4095

/-- What a path leads to: a place and what is there. The directory of the place is there. -/
abbrev Target := Place × Option DiskItem

/-- Goes on from the directory `here`, with `budget` links left to follow. -/
def find (disk : Disk) (last : LastLink) (budget : Nat) (here : Place) :
    List String → Except FileFault Target
  | [] => .ok (here, some .directory)
  | name :: rest =>
    if name = "." then find disk last budget here rest
    else if name = ".." then find disk last budget here.dropLast rest
    else if name.utf8ByteSize > nameLimit then .error .nameTooLong
    else
      let place := here ++ [name]
      match disk.item? place with
      | none => if rest = [] then .ok (place, none) else .error .notFound
      | some .directory => find disk last budget place rest
      | some (.file bytes modified) =>
        if rest = [] then .ok (place, some (.file bytes modified)) else .error .notDirectory
      | some (.link target) =>
        if rest = [] ∧ last = .keep then .ok (place, some (.link target))
        else
          match budget with
          | 0 => .error .tooManyLinks
          | budget + 1 =>
            let (absolute, steps) := linkSteps target
            let start := if absolute then [] else here
            match if rest = [] ∧ last = .create then slashedSteps? target else none with
            | none => find disk last budget start (steps ++ rest)
            | some outer =>
              match find disk .follow budget start (outer ++ ["."]) with
              | .ok _ => .error .isDirectory
              | .error fault => .error fault
termination_by steps => (budget, steps.length)

def locate (disk : Disk) (last : LastLink) (path : Path) : Except FileError Target :=
  if path.hasNull then .error .nullInPath
  else if path.text.utf8ByteSize > pathLimit then .error (.fault .nameTooLong path.text)
  else
    (disk.find last linkLimit (disk.start path.isAbsolute) path.names).mapError
      (.fault · path.text)

/-- What is there at the end of a path, all links followed. -/
def status (disk : Disk) (path : Path) : Except FileError (Place × DiskItem) :=
  match disk.locate .follow path with
  | .ok (place, some item) => .ok (place, item)
  | .ok (_, none) => .error (.fault .notFound path.text)
  | .error e => .error e

/-- Whether there is an item of a kind. Where a path cannot lead to anything there is none, but a
name that is too long is refused. -/
def holds (disk : Disk) (kind : DiskItem → Bool) (path : Path) : Except FileError Bool :=
  match disk.status path with
  | .ok (_, item) => .ok (kind item)
  | .error (.fault .nameTooLong text) => .error (.fault .nameTooLong text)
  | .error _ => .ok false

def isDirectory (disk : Disk) : Path → Except FileError Bool :=
  disk.holds fun
    | .directory => true
    | _ => false

def isFile (disk : Disk) : Path → Except FileError Bool :=
  disk.holds fun
    | .file .. => true
    | _ => false

def exists? (disk : Disk) : Path → Except FileError Bool :=
  disk.holds fun _ => true

/-! ## Real paths -/

def linkCount (disk : Disk) : Nat :=
  disk.items.countP fun (_, item) => match item with
    | .link _ => true
    | _ => false

/-- Takes single and double dots for what they mean in a text. -/
def plainSteps (steps : List String) : Place :=
  steps.foldl (fun place name =>
    if name = "." then place else if name = ".." then place.dropLast else place ++ [name]) []

def pathOf (place : Place) : Path :=
  ⟨.root, place⟩

/-- The path without relative parts; links stay. -/
def absolutePath (disk : Disk) (path : Path) : Path :=
  ⟨if path.anchor = .doubleRoot then .doubleRoot else .root,
    plainSteps (disk.start path.isAbsolute ++ path.names)⟩

/-- One step up. A relative path may go up above its start. -/
def up (path : Path) : Path :=
  if path.anchor = .here ∧ (path.names = [] ∨ path.name = "..") then path.child ".."
  else path.parent

def textSteps (text : String) : List String :=
  (Text.pieces (· = '/') text.toList).map String.ofList

/-- What is left of a path when its links lead round in a loop. -/
def unfollowed (path : Path) (steps : List String) : Path :=
  path.join (Path.ofString ("/".intercalate steps))

/-- Goes on from `here` and replaces links by where they lead. `busy` are the links that are being
followed, under the paths by which they were met; the flag tells whether none is met again. What is
not there is no hindrance. -/
def realSteps (disk : Disk) (fuel : Nat) (busy : List Path) (here : Path) :
    List String → Path × Bool
  | [] => (here, true)
  | name :: rest =>
    if name = "" ∨ name = "." then realSteps disk fuel busy here rest
    else if name = ".." then realSteps disk fuel busy (up here) rest
    else
      let path := here.child name
      match fuel, disk.item? (disk.absolutePath path).names with
      | fuel + 1, some (.link target) =>
        if busy.contains path then (unfollowed path rest, false)
        else
          let start : Path := if target.toList.head? = some '/' then pathOf [] else here
          match realSteps disk fuel (path :: busy) start (textSteps target) with
          | (there, true) => realSteps disk (fuel + 1) busy there rest
          | (there, false) => (unfollowed there rest, false)
      | fuel, _ => realSteps disk fuel busy path rest
termination_by steps => (fuel, steps.length)

/-- The path with all links followed. A link can be met under its absolute path and under a relative
one for every way up from the current directory, before a loop is noticed. -/
def realPath (disk : Disk) (path : Path) : Except FileError Path :=
  let start : Path := if path.isAbsolute then pathOf [] else ⟨.here, []⟩
  let fuel := disk.linkCount * (disk.current.length + 2) + 1
  if path.hasNull then .error .nullInPath
  else .ok (disk.absolutePath (disk.realSteps fuel [] start path.names).1)

/-- The real path, unless links lead round in a loop. -/
def resolve (disk : Disk) (path : Path) : Except FileError Path := do
  let real ← disk.realPath path
  match disk.locate .follow real with
  | .error (.fault .tooManyLinks _) => throw (.linkLoop real.text)
  | _ => return real

/-! ## Reading -/

/-- The entries of a directory, in its order. With `followLinks`, a link to a directory counts as a
directory. -/
def list (disk : Disk) (followLinks : Bool) (path : Path) : Except FileError (List Entry) :=
  match disk.status path with
  | .error e => .error e
  | .ok (place, .directory) =>
    let names := disk.items.filterMap fun (p, item) =>
      if p.dropLast = place then p.getLast?.map (·, item) else none
    let isDirectory (name : String) (item : DiskItem) : Bool :=
      match item with
      | .directory => true
      | .file .. => false
      | .link _ => followLinks && (disk.isDirectory (pathOf (place ++ [name]))).toOption.getD false
    .ok <| (names.mergeSort fun a b => (disk.order place).le a.1 b.1).map fun (name, item) =>
      ⟨name, path.child name, isDirectory name item⟩
  | .ok _ => .error (.fault .notDirectory path.text)

def read (disk : Disk) (path : Path) : Except FileError Bytes :=
  match disk.status path with
  | .error e => .error e
  | .ok (_, .file bytes _) => .ok bytes
  | .ok _ => .error (.fault .isDirectory path.text)

/-- What the signature of a directory is does not matter to anyone. -/
def signature (disk : Disk) (path : Path) : Except FileError Signature :=
  match disk.status path with
  | .error e => .error e
  | .ok (_, .file bytes modified) => .ok ⟨bytes.length, modified⟩
  | .ok _ => .ok ⟨0, 0⟩

def directoryCount (disk : Disk) : Nat :=
  disk.items.countP (·.2 = .directory)

/-! ## Writing -/

def put (disk : Disk) (place : Place) (item : DiskItem) : Disk :=
  { disk with items := (place, item) :: disk.items.filter (·.1 ≠ place) }

/-- Removes what is at a place and all below it. -/
def remove (disk : Disk) (place : Place) : Disk :=
  { disk with items := disk.items.filter fun (p, _) => !place.isPrefixOf p }

/-- A change of the disk; what was changed before a failure stays changed. -/
abbrev Change := ExceptT FileError (StateM Disk)

def makeDirectory (path : Path) : Change Unit := do
  let disk ← get
  match disk.locate .keep path with
  | .error e => throw e
  | .ok (_, some _) => throw (.fault .alreadyExists path.text)
  | .ok (place, none) => set (disk.put place .directory)

/-- Whether a directory is there now. -/
def hasDirectory (path : Path) : Change Bool := do
  match (← get).isDirectory path with
  | .ok found => return found
  | .error e => throw e

/-- Makes a directory unless it is there. -/
def ensureDirectory (path : Path) : Change Unit := do
  try makeDirectory path catch e =>
    unless ← hasDirectory path do throw e

/-- Makes a directory and those above it as far as they are missing. Each round goes one name up,
so the number of names is enough `fuel`. -/
def ensureDirectoriesFrom : Nat → Path → Change Unit
  | 0, path => ensureDirectory path
  | fuel + 1, path => do
    match ← ExceptT.lift (makeDirectory path).run with
    | .ok () => return
    | .error (.fault .notFound text) =>
      if path.names = [] then throw (.fault .notFound text)
      ensureDirectoriesFrom fuel path.parent
      ensureDirectory path
    | .error e => unless ← hasDirectory path do throw e

def ensureDirectories (path : Path) : Change Unit :=
  ensureDirectoriesFrom path.names.length path

/-- Puts a file in place of what the path leads to. -/
def writeWith (path : Path) (contents : Bytes → Bytes) : Change Unit := do
  let disk ← get
  let disk := { disk with clock := disk.clock + 1000000 }
  match disk.locate .create path with
  | .error e => throw e
  | .ok (_, some .directory) => throw (.fault .isDirectory path.text)
  | .ok (place, some (.file bytes _)) => set (disk.put place (.file (contents bytes) disk.clock))
  | .ok (place, _) => set (disk.put place (.file (contents []) disk.clock))

def write (path : Path) (bytes : Bytes) : Change Unit :=
  writeWith path fun _ => bytes

def append (path : Path) (bytes : Bytes) : Change Unit :=
  writeWith path (· ++ bytes)

/-- Writes a text and makes the directories that the file needs. The file is emptied before the
text is written down, so it stays empty if that is not possible. -/
def writeText (path : Path) (text : RawText) : Change Unit := do
  ensureDirectories path.parent
  match Text.Utf8.encodeRaw text with
  | .ok bytes => write path bytes
  | .error fault => do
    write path []
    throw (.unencodable fault)

/-- Sets the time of the last change of a file. -/
def touch (path : Path) (modified : Int) : Change Unit := do
  let disk ← get
  match disk.status path with
  | .ok (place, .file bytes _) => set (disk.put place (.file bytes modified))
  | .ok _ => return
  | .error e => throw e

def makeLink (path : Path) (target : String) : Change Unit := do
  let disk ← get
  match disk.locate .keep path with
  | .error e => throw e
  | .ok (_, some _) => throw (.fault .alreadyExists path.text)
  | .ok (place, none) => set (disk.put place (.link target))

end Disk

end ScriptStats
