import ScriptStats.Yaml.Fault

/-!
# A place in a YAML text

The cursor knows what follows and on which line and column it stands. The text ends before a NUL,
which cannot occur in it.
-/

namespace ScriptStats.Yaml

structure Cursor where
  rest : List Char
  index : Nat := 0
  line : Nat := 0
  column : Nat := 0

def isBreak (c : Char) : Bool :=
  c = '\n' || c = '\x85' || c = '\u2028' || c = '\u2029'

def isLineEnd (c : Char) : Bool :=
  c = '\x00' || isBreak c

def isSpaceOrEnd (c : Char) : Bool :=
  c = ' ' || isLineEnd c

/-- What may stand behind an indicator. -/
def isGap (c : Char) : Bool :=
  c = '\t' || isSpaceOrEnd c

/-- A byte order mark takes no column. -/
def Cursor.next (cursor : Cursor) : Cursor :=
  match cursor.rest with
  | [] => cursor
  | c :: rest =>
    if isBreak c then { rest, index := cursor.index + 1, line := cursor.line + 1, column := 0 }
    else
      { cursor with
        rest := rest
        index := cursor.index + 1
        column := if c = '\uFEFF' then cursor.column else cursor.column + 1 }

def Cursor.skip : Nat → Cursor → Cursor
  | 0, cursor => cursor
  | n + 1, cursor => Cursor.skip n cursor.next

def Cursor.peekAt (cursor : Cursor) (n : Nat) : Char :=
  cursor.rest[n]?.getD '\x00'

/-- Whether three dashes or three dots, and nothing that goes on with them, come next. -/
def Cursor.atMark (cursor : Cursor) (mark : Char) : Bool :=
  cursor.rest.take 3 = [mark, mark, mark] && isGap (cursor.peekAt 3)

def Cursor.atDocumentMark (cursor : Cursor) : Bool :=
  cursor.atMark '-' || cursor.atMark '.'

abbrev Scan := StateT Cursor (Except Fault)

namespace Scan

def fail {α : Type} : Scan α := throw .malformed

def peek : Scan Char := return (← get).peekAt 0

def peekAt (n : Nat) : Scan Char := return (← get).peekAt n

def skip (n : Nat) : Scan Unit := modify (Cursor.skip n)

/-- How many steps are enough for whatever takes a character in each. -/
def fuel : Scan Nat := return (← get).rest.length + 1

def take (n : Nat) : Scan (List Char) := do
  let taken := (← get).rest.take n
  skip n
  return taken

def takeWhile (p : Char → Bool) : Scan (List Char) := do
  take ((← get).rest.takeWhile p).length

def skipWhile (p : Char → Bool) : Scan Unit := do
  let _ ← takeWhile p

def skipSpaces : Scan Unit := skipWhile (· = ' ')

/-- Takes a line break; most of them are written as line feeds. -/
def lineBreak : Scan (List Char) := do
  let c ← peek
  if c = '\n' || c = '\x85' then
    skip 1
    return ['\n']
  if isBreak c then
    skip 1
    return [c]
  return []

/-- Takes blanks and a comment up to the end of the line, and the line break. -/
def restOfLine : Scan Unit := do
  skipSpaces
  if (← peek) = '#' then skipWhile (!isLineEnd ·)
  unless isLineEnd (← peek) do fail
  let _ ← lineBreak

/-- A character of a name. -/
def isNameChar (c : Char) : Bool :=
  c.isAlphanum || c = '-' || c = '_'

/-- Digits of base 16, exactly so many. -/
def hexDigits (n : Nat) : Scan Nat := do
  match (← take n).mapM Text.hexValue? with
  | some digits => if digits.length = n then return Text.ofDigits 16 digits else fail
  | none => fail

end Scan

end ScriptStats.Yaml
