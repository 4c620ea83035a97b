import ScriptStats.Binary64.Basic
import ScriptStats.Text.CodePoint
import ScriptStats.Text.Number

/-!
# JSON values

Whole numbers of any size are kept apart from floating point numbers. The fields of an object are
kept in order, each name once.
-/

namespace ScriptStats

inductive Json where
  | null
  | bool (b : Bool)
  | int (n : Int)
  | float (x : Binary64)
  | string (s : RawText)
  | array (items : List Json)
  | object (fields : List (RawText × Json))
  deriving Repr

namespace Json

/-- Puts a field into an object. A name that is there already keeps its place. -/
def putField (fields : List (RawText × Json)) (name : RawText) (value : Json) :
    List (RawText × Json) :=
  match fields with
  | [] => [(name, value)]
  | (n, v) :: rest => if n = name then (n, value) :: rest else (n, v) :: putField rest name value

def objectOf (fields : List (RawText × Json)) : Json :=
  object (fields.foldl (fun all (name, value) => putField all name value) [])

/-- An object whose names are texts, each of them once. -/
def record (fields : List (String × Json)) : Json :=
  object (fields.map fun (name, value) => (RawText.ofString name, value))

def field? (name : String) : Json → Option Json
  | object fields => fields.lookup (RawText.ofString name)
  | _ => none

def strings (items : List String) : Json :=
  array (items.map fun (s : String) => string s)

def ofOption {α : Type} (write : α → Json) : Option α → Json
  | some a => write a
  | none => null

def asRawText? : Json → Option RawText
  | string s => some s
  | _ => none

def asString? (value : Json) : Option String :=
  value.asRawText?.map RawText.toString

def asArray? : Json → Option (List Json)
  | array items => some items
  | _ => none

mutual

/-- Puts the fields of all objects in the order of their names. -/
def sortFields : Json → Json
  | array items => array (sortFieldsItems items)
  | object fields =>
    object ((sortFieldsFields fields).mergeSort fun a b => (compare a.1 b.1).isLE)
  | value => value

def sortFieldsItems : List Json → List Json
  | [] => []
  | item :: items => sortFields item :: sortFieldsItems items

def sortFieldsFields : List (RawText × Json) → List (RawText × Json)
  | [] => []
  | (name, value) :: fields => (name, sortFields value) :: sortFieldsFields fields

end

/-! ## What can be written -/

mutual

/-- Whether all names satisfy `name`, and `leaf` all values that are no collections. -/
def every (name : RawText → Bool) (leaf : Json → Bool) : Json → Bool
  | array items => everyItem name leaf items
  | object fields => everyField name leaf fields
  | value => leaf value

def everyItem (name : RawText → Bool) (leaf : Json → Bool) : List Json → Bool
  | [] => true
  | item :: items => every name leaf item && everyItem name leaf items

def everyField (name : RawText → Bool) (leaf : Json → Bool) : List (RawText × Json) → Bool
  | [] => true
  | (n, value) :: fields => name n && every name leaf value && everyField name leaf fields

end

/-- Whether no whole number is too long to be written. -/
def hasWritableNumbers : Json → Bool :=
  every (fun _ => true) fun
    | int n => Text.isWritable n
    | _ => true

/-- Whether all names and texts are made of characters only. -/
def isText : Json → Bool :=
  every RawText.isText fun
    | string s => s.isText
    | _ => true

/-- Whether a value can be sent: its texts hold characters only, and its numbers are finite and not
too long. -/
def isSendable : Json → Bool :=
  every RawText.isText fun
    | int n => Text.isWritable n
    | float (.finite ..) => true
    | float _ => false
    | string s => s.isText
    | _ => true

end Json

end ScriptStats
