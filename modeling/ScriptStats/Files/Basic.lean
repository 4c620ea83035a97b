import ScriptStats.Path
import ScriptStats.Text.Quoted
import ScriptStats.Text.Utf8

/-!
# Files

What the analysis sees of a file system: the entries of a directory, the bytes of a file and the
signature by which a change of the file is noticed.
-/

namespace ScriptStats

/-- The causes for which a file system refuses a request. -/
inductive FileFault where
  | notFound
  | alreadyExists
  | notDirectory
  | isDirectory
  | nameTooLong
  | tooManyLinks
  deriving DecidableEq, Repr

namespace FileFault

def all : List FileFault :=
  [notFound, alreadyExists, notDirectory, isDirectory, nameTooLong, tooManyLinks]

def number : FileFault → Nat
  | notFound => 2
  | alreadyExists => 17
  | notDirectory => 20
  | isDirectory => 21
  | nameTooLong => 36
  | tooManyLinks => 40

def description : FileFault → String
  | notFound => "No such file or directory"
  | alreadyExists => "File exists"
  | notDirectory => "Not a directory"
  | isDirectory => "Is a directory"
  | nameTooLong => "File name too long"
  | tooManyLinks => "Too many levels of symbolic links"

def ofNumber? (n : Nat) : Option FileFault :=
  all.find? (·.number = n)

end FileFault

/-- Why something cannot be done with a file. -/
inductive FileError where
  | fault (fault : FileFault) (path : String)
  | refused (reason : String)
  /-- The path holds a NUL. -/
  | nullInPath
  /-- A path that begins at the home directory of a user who is not known. -/
  | homeUnknown
  /-- A path on which links lead round in a loop, as far as it can be followed. -/
  | linkLoop (path : String)
  /-- A text that cannot be written down. -/
  | unencodable (text : Text.Utf8.Unencodable)
  deriving DecidableEq, Repr

namespace FileError

/-- Whether the file system has refused the request; all else is wrong before it gets there. -/
def isRefusal : FileError → Bool
  | fault .. => true
  | refused _ => true
  | _ => false

def message : FileError → String
  | fault f path =>
    "[Errno " ++ toString f.number ++ "] " ++ f.description ++ ": " ++ Text.quoted path
  | refused reason => reason
  | nullInPath => "embedded null byte"
  | homeUnknown => "Could not determine home directory."
  | linkLoop path => "Symlink loop from " ++ Text.quoted path
  | unencodable text => text.message

end FileError

/-- The path, unless it asks for the home directory of a user. No user is known. -/
def Path.expanded (path : Path) : Except FileError Path :=
  if !path.asksForHome then .ok path
  else if Path.hasNull ⟨.here, path.names.take 1⟩ then .error .nullInPath
  else .error .homeUnknown

/-- An entry of a directory. -/
structure Entry where
  name : String
  path : Path
  isDirectory : Bool
  deriving DecidableEq, Inhabited, Repr

/-- The size of a file and the stamp of its last change. -/
structure Signature where
  size : Nat
  stamp : Int
  deriving DecidableEq, Repr

def Signature.text (s : Signature) : String :=
  toString s.size ++ ":" ++ toString s.stamp

end ScriptStats
