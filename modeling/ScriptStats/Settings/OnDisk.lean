import ScriptStats.Files.Disk
import ScriptStats.Settings.Reading

/-!
# The settings of a workspace on a disk

The file of the settings lies in the directory that is asked about, or in that of the file. A link
is followed: the root is the directory where the settings really are.
-/

namespace ScriptStats.Settings

/-- The path where the settings of `path` are looked for. -/
def fileFor (isDirectory : Bool) (path : Path) : Path :=
  if isDirectory then path.child fileName
  else if path.name = fileName then path
  else path.parent.child fileName

/-- The settings that a file gives the workspace at `root`. -/
def ofFile (file root : Path) (contents : Except FileError Bytes) :
    Except SettingsFailure Settings := do
  let refuse (reason : String) : SettingsFailure :=
    .invalid ("Failed to read " ++ file.name ++ ": " ++ reason)
  let bytes ← contents.mapError fun e => refuse e.message
  let text ← (Text.Utf8.decode bytes).mapError fun fault => refuse fault.message
  ofText file.name root (Text.unifyLineEnds text)

def inFiles {α : Type} (outcome : Except FileError α) : Except SettingsFailure α :=
  outcome.mapError .file

/-- The settings that hold for `path`. -/
def load (disk : Disk) (path : Path) : Except SettingsFailure Settings := do
  let path ← inFiles path.expanded
  let isDirectory ← inFiles (disk.isDirectory path)
  let file ← inFiles (disk.resolve (fileFor isDirectory path))
  let root ← inFiles (disk.resolve file.parent)
  if ← inFiles (disk.exists? file) then ofFile file root (disk.read file) else return { root }

end ScriptStats.Settings
