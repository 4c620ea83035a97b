import ScriptStats.Binary64.Shortest
import ScriptStats.Json.Basic

/-!
# Writing JSON

Two forms: on one line, and spread over lines with two blanks for every level. Only quotes,
backslashes and the control characters below the blank are escaped.
-/

namespace ScriptStats.Json

def floatSpelling : Binary64.Spelling := ⟨"NaN", "Infinity"⟩

def hexDigit (n : Nat) : Char := Nat.digitChar n

def escapeChar (c : Char) : List Char :=
  if c = '"' then ['\\', '"']
  else if c = '\\' then ['\\', '\\']
  else if c = '\n' then ['\\', 'n']
  else if c = '\r' then ['\\', 'r']
  else if c = '\t' then ['\\', 't']
  else if c = '\x08' then ['\\', 'b']
  else if c = '\x0c' then ['\\', 'f']
  else if c.toNat < 0x20 then
    ['\\', 'u', '0', '0', hexDigit (c.toNat / 16), hexDigit (c.toNat % 16)]
  else [c]

/-- Halves of surrogate pairs stay as they are. -/
def escapePoint : CodePoint → RawText
  | .char c => RawText.ofChars (escapeChar c)
  | .half n => [.half n]

def quote (s : RawText) : RawText :=
  .char '"' :: s.flatMap escapePoint ++ [.char '"']

def scalarText : Json → RawText
  | null => "null"
  | bool b => if b then "true" else "false"
  | int n => toString n
  | float x => x.text floatSpelling
  | string s => quote s
  | array _ => "[]"
  | object _ => "\x7b\x7d"

/-! ## On one line -/

mutual

def compactRaw : Json → RawText
  | array items => RawText.ofString "[" ++ compactItems items ++ RawText.ofString "]"
  | object fields => RawText.ofString "\x7b" ++ compactFields fields ++ RawText.ofString "\x7d"
  | value => scalarText value

def compactItems : List Json → RawText
  | [] => []
  | [item] => compactRaw item
  | item :: items => compactRaw item ++ .char ',' :: compactItems items

def compactFields : List (RawText × Json) → RawText
  | [] => []
  | [(name, value)] => quote name ++ .char ':' :: compactRaw value
  | (name, value) :: fields =>
    quote name ++ .char ':' :: compactRaw value ++ .char ',' :: compactFields fields

end

def compact (value : Json) : String :=
  (compactRaw value).toString

/-! ## Over lines -/

/-- A line break and the indentation of a level. -/
def newline (level : Nat) : RawText :=
  .char '\n' :: List.replicate (2 * level) (.char ' ')

def block (open_ close : Char) (level : Nat) (parts : List RawText) : RawText :=
  .char open_ :: newline (level + 1)
    ++ List.intercalate (.char ',' :: newline (level + 1)) parts
    ++ newline level ++ [.char close]

mutual

/-- The value begins on `level`. Empty collections stay on one line. -/
def prettyAt (level : Nat) : Json → RawText
  | array (item :: items) =>
    block '[' ']' level (prettyAt (level + 1) item :: prettyItems (level + 1) items)
  | object ((name, value) :: fields) =>
    block '\x7b' '\x7d' level
      ((quote name ++ RawText.ofString ": " ++ prettyAt (level + 1) value)
        :: prettyFields (level + 1) fields)
  | value => scalarText value

def prettyItems (level : Nat) : List Json → List RawText
  | [] => []
  | item :: items => prettyAt level item :: prettyItems level items

def prettyFields (level : Nat) : List (RawText × Json) → List RawText
  | [] => []
  | (name, value) :: fields =>
    (quote name ++ RawText.ofString ": " ++ prettyAt level value) :: prettyFields level fields

end

def prettyRaw (value : Json) : RawText :=
  prettyAt 0 value

def pretty (value : Json) : String :=
  (prettyRaw value).toString

end ScriptStats.Json
