import ScriptStats.Text.Lines

/-!
# Paths

A path is a sequence of names from an anchor. Reading one drops empty names and single dots; two
dots stay. A path that begins with exactly two slashes keeps both.
-/

namespace ScriptStats

/-- Where a path starts. -/
inductive Anchor where
  | here
  | root
  | doubleRoot
  deriving DecidableEq, Inhabited, Repr

def Anchor.text : Anchor → String
  | here => ""
  | root => "/"
  | doubleRoot => "//"

structure Path where
  anchor : Anchor
  names : List String
  deriving DecidableEq, Inhabited, Repr

namespace Path

def isName (s : String) : Bool :=
  s ≠ "" && s ≠ "."

def namesOf (text : List Char) : List String :=
  ((Text.pieces (· = '/') text).map String.ofList).filter isName

def anchorOf (text : List Char) : Anchor :=
  match (text.takeWhile (· = '/')).length with
  | 0 => .here
  | 2 => .doubleRoot
  | _ => .root

def ofString (s : String) : Path :=
  ⟨anchorOf s.toList, namesOf s.toList⟩

/-- A path is written with a slash between its names, and as a dot if it has neither anchor nor
names. -/
def text (p : Path) : String :=
  if p.anchor = .here ∧ p.names = [] then "." else p.anchor.text ++ "/".intercalate p.names

instance : ToString Path := ⟨text⟩

def isAbsolute (p : Path) : Bool :=
  p.anchor ≠ .here

/-- An absolute second path replaces the first. -/
def join (p q : Path) : Path :=
  if q.isAbsolute then q else ⟨p.anchor, p.names ++ q.names⟩

def child (p : Path) (name : String) : Path :=
  ⟨p.anchor, p.names ++ [name]⟩

def name (p : Path) : String :=
  p.names.getLast?.getD ""

def parent (p : Path) : Path :=
  ⟨p.anchor, p.names.dropLast⟩

/-- The name, or the whole path if it has none. -/
def label (p : Path) : String :=
  if p.name = "" then p.text else p.name

/-- The rest of the path below `base`. -/
def below? (base p : Path) : Option Path :=
  if p.anchor = base.anchor ∧ base.names <+: p.names then
    some ⟨.here, p.names.drop base.names.length⟩
  else none

/-- A path that begins with a tilde asks for the home directory of a user. -/
def asksForHome (p : Path) : Bool :=
  match p.anchor, p.names with
  | .here, first :: _ => first.toList.head? = some '~'
  | _, _ => false

/-- Whether a name holds a NUL, which no file system allows. -/
def hasNull (p : Path) : Bool :=
  p.names.any (·.contains '\x00')

end Path

end ScriptStats
