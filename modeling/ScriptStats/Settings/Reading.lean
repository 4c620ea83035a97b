import ScriptStats.Binary64.Shortest
import ScriptStats.Settings.Basic
import ScriptStats.Settings.Failure
import ScriptStats.Yaml.Document

/-!
# Reading settings

Settings come from a YAML document. A field of a type that it cannot have is taken for missing.
Only three things are refused: a document that is not a mapping, a negative depth and less than
one worker.
-/

namespace ScriptStats.Settings

open Yaml

/-! ## Conversions -/

def floatSpelling : Binary64.Spelling := ⟨"nan", "inf"⟩

/-- A number is written out unless it has too many digits. -/
def intText (n : Int) : Except SettingsFailure String :=
  if Text.isWritable n then .ok (toString n) else .error .longNumber

/-- The text of a text or a number. -/
def scalarText? : Scalar → Except SettingsFailure (Option RawText)
  | .text s => .ok (some s)
  | .int n => (intText n).map fun s => some (RawText.ofString s)
  | .float x => .ok (some (x.text floatSpelling))
  | _ => .ok none

/-- Items of a list are texts, numbers or truth values. -/
def itemText? : Scalar → Except SettingsFailure (Option RawText)
  | .bool b => .ok (some (if b then "True" else "False"))
  | scalar => scalarText? scalar

def contentText? : Option Content → Except SettingsFailure (Option RawText)
  | some (.scalar s) => scalarText? s
  | _ => .ok none

/-- The text of a field, if it is there and not empty. -/
def nonEmptyText? (content : Option Content) : Except SettingsFailure (Option RawText) := do
  return (← contentText? content).filter (· ≠ [])

/-- A whole number, also one that is written as a text. -/
def int? : Option Content → Option Int
  | some (.scalar (.int n)) => some n
  | some (.scalar (.text s)) => (Text.readInt 10 s.chars).toOption
  | _ => none

def trueWords : List String := ["true", "yes", "1"]

/-- Whether a field says yes, as a truth value or as a text. -/
def isTrue : Option Content → Bool
  | some (.scalar (.bool b)) => b
  | some (.scalar (.text s)) =>
    trueWords.contains (Text.lower (RawText.ofChars (Text.trim s.chars))).toString
  | _ => false

/-- A single text stands for a list of one. Bytes are a list of numbers. -/
def texts (document : Document) : Option Content → Except SettingsFailure (List RawText)
  | some (.scalar (.text s)) => .ok [s]
  | some (.scalar (.bytes bytes)) => .ok (bytes.map fun b => RawText.ofString (toString b.toNat))
  | some (.list items) => do
    let texts ← items.mapM fun item =>
      match document.content item with
      | .scalar s => itemText? s
      | _ => .ok none
    return texts.filterMap id
  | _ => .ok []

/-! ## Names of files -/

/-- What no name holds. -/
def impossibleName : String := "/"

/-- A name that is no text is that of no file. -/
def nameText (name : RawText) : String :=
  name.toString?.getD impossibleName

/-- The first of the halves that stand for the bytes of a name, one for each byte above `0x7F`. -/
def firstByteHalf : Nat := 0x480

/-- In a path a half stands for a byte, or it is as impossible as a NUL. -/
def pathChar : CodePoint → Char
  | .char c => c
  | .half n =>
    if firstByteHalf ≤ n.val ∧ n.val < firstByteHalf + 0x80 then Char.ofNat (0x10F000 + n.val)
    else '\x00'

def pathText (path : RawText) : String :=
  String.ofList (path.map pathChar)

/-! ## Fields -/

/-- Whether a content stands for no settings at all. -/
def isEmptyContent : Content → Bool
  | .scalar .null => true
  | .scalar (.bool b) => !b
  | .scalar (.int n) => n = 0
  | .scalar (.float x) => x.toInt? = some 0
  | .scalar (.text s) => s = []
  | .scalar (.bytes bytes) => bytes = []
  | .scalar .timestamp => false
  | .list items => items = []
  | .pairs items => items = []
  | .set items => items = []
  | .mapping fields => fields = []

/-- The fields of a document. -/
def fields? (document : Document) : Option (List (Nat × Nat)) :=
  match document.content document.root with
  | .mapping fields => some fields
  | content => if isEmptyContent content then some [] else none

def defaultExtension : String := ".nani"

/-- An extension begins with a dot. -/
def withDot (extension : String) : String :=
  if extension.toList.head? = some '.' then extension else "." ++ extension

def notMapping : SettingsFailure :=
  .invalid (fileName ++ " must contain a mapping at the root")

def negativeDepth : SettingsFailure :=
  .invalid "max_depth must not be negative"

def noWorkers : SettingsFailure :=
  .invalid "workers must be at least 1"

def checkDepth (depth : Option Int) : Except SettingsFailure (Option Int) :=
  match depth with
  | some n => if n < 0 then .error negativeDepth else .ok (some n)
  | none => .ok none

def checkWorkers (workers : Option Int) : Except SettingsFailure Int :=
  match workers with
  | some n => if n < 1 then .error noWorkers else .ok n
  | none => .ok 1

def cacheSettings (root : Path) (document : Document) :
    Option Content → Except SettingsFailure CacheSettings
  | some (.mapping fields) => do
    let path ← nonEmptyText? (document.field? fields "path")
    return { enabled := isTrue (document.field? fields "enabled")
             path := path.map fun p => root.join (Path.ofString (pathText p)) }
  | _ => .ok {}

/-- The settings that a document gives the workspace at `root`. -/
def ofDocument (root : Path) (document : Document) : Except SettingsFailure Settings := do
  let some fields := fields? document | throw notMapping
  let field := document.field? fields
  let extension ← nonEmptyText? (field "extension")
  let maxDepth ← checkDepth (int? (field "max_depth"))
  let workers ← checkWorkers (int? (field "workers"))
  let cache ← cacheSettings root document (field "cache")
  let excludeDirs ← texts document (field "exclude_dirs")
  return { root, excludeDirs := excludeDirs.map nameText
           extension := withDot ((extension.map nameText).getD defaultExtension)
           maxDepth, workers, cache }

/-- The settings that a text gives the workspace at `root`. A blank text gives none. -/
def ofText (name : String) (root : Path) (text : List Char) : Except SettingsFailure Settings :=
  if text.all Text.isBlank then .ok { root }
  else match Document.ofText text with
    | .ok document => ofDocument root document
    | .error .malformed => .error (.invalid ("Failed to parse " ++ name ++ ": not a YAML document"))
    | .error fault => .error (.value fault)

end ScriptStats.Settings
