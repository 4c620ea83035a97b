import ScriptStats.Json.Basic

/-!
# Queries

The bodies that the service understands. Reading a body finds all that is wrong with it, each
fault with its place, in the order of the fields. Unknown fields do not matter.
-/

namespace ScriptStats.Service

inductive QueryFault where
  | missing
  | invalidJson
  | notObject
  | notString
  | notList
  | notBool
  /-- A value of a kind that may stand for a truth value, but not this one. -/
  | noSuchBool
  deriving DecidableEq, Repr

def QueryFault.name : QueryFault → String
  | missing => "missing"
  | invalidJson => "json_invalid"
  | notObject => "model_attributes_type"
  | notString => "string_type"
  | notList => "list_type"
  | notBool => "bool_type"
  | noSuchBool => "bool_parsing"

/-- A step on the way into a body. -/
inductive Step where
  | field (name : String)
  | index (n : Nat)
  deriving DecidableEq, Repr

def Step.toJson : Step → Json
  | field name => .string name
  | index n => .int n

structure PlacedFault where
  fault : QueryFault
  place : List Step := []
  /-- Whether the value at fault can be sent back with the refusal. -/
  sendable : Bool := true
  deriving DecidableEq, Repr

namespace PlacedFault

/-- The same fault seen from one step further out. -/
def under (step : Step) (f : PlacedFault) : PlacedFault :=
  { f with place := step :: f.place }

def toJson (f : PlacedFault) : Json :=
  .record [("type", .string f.fault.name), ("loc", .array (f.place.map Step.toJson))]

end PlacedFault

/-- A value, or all that keeps it from being read. -/
abbrev Checked (α : Type) := Except (List PlacedFault) α

namespace Checked

variable {α β γ : Type}

/-- Refuses a value. -/
def refuse (fault : QueryFault) (value : Json) : Checked α :=
  .error [⟨fault, [], value.isSendable⟩]

/-- Both values, or the faults of both. -/
def both (a : Checked α) (b : Checked β) : Checked (α × β) :=
  match a, b with
  | .ok a, .ok b => .ok (a, b)
  | .ok _, .error faults => .error faults
  | .error faults, .ok _ => .error faults
  | .error faults, .error more => .error (faults ++ more)

def under (step : Step) (a : Checked α) : Checked α :=
  a.mapError (·.map (PlacedFault.under step))

/-- The values of all items; `n` is the index of the first. -/
def all (read : Json → Checked α) (n : Nat) : List Json → Checked (List α)
  | [] => .ok []
  | item :: items =>
    (both (under (.index n) (read item)) (all read (n + 1) items)).map fun (a, as) => a :: as

end Checked

/-! ## Values -/

def readString : Json → Checked RawText
  | .string s => .ok s
  | value => .refuse .notString value

def readStrings : Json → Checked (List RawText)
  | .array items => Checked.all readString 0 items
  | value => .refuse .notList value

def trueNames : List String := ["1", "on", "t", "true", "y", "yes"]

def falseNames : List String := ["0", "off", "f", "false", "n", "no"]

/-- The truth value of a name, in small letters or capital ones. -/
def boolOfName? (name : String) : Option Bool :=
  let name := name.map Char.toLower
  if name ∈ trueNames then some true else if name ∈ falseNames then some false else none

/-- One and zero stand for truth values. -/
def boolOfInt? (n : Int) : Option Bool :=
  if n = 1 then some true else if n = 0 then some false else none

/-- Numbers of 64 bits with a sign lie below this one. -/
def wordLimit : Int := 0x8000000000000000

/-- Whether a whole number may stand for a truth value at all: it must not have more than 64 bits,
and the least number of 64 bits does not count where it is written as a floating point number. -/
def isBoolRange (floating : Bool) (n : Int) : Bool :=
  (if floating then -wordLimit < n else -wordLimit ≤ n) && n < wordLimit

def readNumber (floating : Bool) (value : Json) (n : Int) : Checked Bool :=
  match boolOfInt? n with
  | some b => .ok b
  | none => .refuse (if isBoolRange floating n then .noSuchBool else .notBool) value

def readBool (value : Json) : Checked Bool :=
  match value with
  | .bool b => .ok b
  | .string name =>
    match boolOfName? name.toString with
    | some b => .ok b
    | none => .refuse .noSuchBool value
  | .int n => readNumber false value n
  | .float x =>
    match x.toInt? with
    | some n => readNumber true value n
    | none => .refuse .notBool value
  | _ => .refuse .notBool value

/-! ## Fields -/

def field {α : Type} (body : Json) (name : String) (default : Option α)
    (read : Json → Checked α) : Checked α :=
  Checked.under (.field name) <|
    match body.field? name, default with
    | some value, _ => read value
    | none, some value => .ok value
    | none, none => .refuse .missing body

def uniqueWordsField (body : Json) : Checked Bool :=
  field body "unique_words" (some false) readBool

/-- Asks for the statistics of a workspace. -/
structure WorkspaceQuery where
  path : RawText
  exclude : List RawText
  uniqueWords : Bool
  deriving DecidableEq, Repr

/-- Asks for the statistics of a script. -/
structure ScriptQuery where
  path : RawText
  uniqueWords : Bool
  deriving DecidableEq, Repr

/-- Asks for the statistics of a text. -/
structure TextQuery where
  text : RawText
  uniqueWords : Bool
  deriving DecidableEq, Repr

def ofObject {α : Type} (read : Json → Checked α) (body : Json) : Checked α :=
  match body with
  | .object _ => read body
  | value => .refuse .notObject value

def WorkspaceQuery.ofJson : Json → Checked WorkspaceQuery :=
  ofObject fun body =>
    (Checked.both (field body "path" none readString)
      (Checked.both (field body "exclude_dirs" (some []) readStrings)
        (uniqueWordsField body))).map fun (path, exclude, unique) => ⟨path, exclude, unique⟩

def ScriptQuery.ofJson : Json → Checked ScriptQuery :=
  ofObject fun body =>
    (Checked.both (field body "path" none readString) (uniqueWordsField body)).map
      fun (path, unique) => ⟨path, unique⟩

def TextQuery.ofJson : Json → Checked TextQuery :=
  ofObject fun body =>
    (Checked.both (field body "text" none readString) (uniqueWordsField body)).map
      fun (text, unique) => ⟨text, unique⟩

end ScriptStats.Service
