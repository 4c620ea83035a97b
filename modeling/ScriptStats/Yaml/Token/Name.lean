import ScriptStats.Text.Utf8
import ScriptStats.Yaml.Token.Basic
import ScriptStats.Yaml.Token.Cursor

/-!
# Names, tags and directives
-/

namespace ScriptStats.Yaml.Scan

/-- The name behind the mark of an anchor or an alias. -/
def anchorName : Scan String := do
  skip 1
  let name ← takeWhile isNameChar
  if name = [] then fail
  let c ← peek
  unless isGap c || "?:,]\x7d%@\x60".toList.contains c do fail
  return String.ofList name

/-! ## Tags -/

/-- A tag handle: an exclamation mark, or a name between two of them. -/
def tagHandle : Scan String := do
  unless (← peek) = '!' do fail
  if (← peekAt 1) = ' ' then return String.ofList (← take 1)
  let name := (← get).rest.tail.takeWhile isNameChar
  if (← peekAt (name.length + 1)) = '!' then return String.ofList (← take (name.length + 2))
  -- A lone mark stands for itself only before a blank.
  fail

/-- The bytes of escapes by percent signs. -/
def uriEscapes : Nat → Scan Bytes
  | 0 => fail
  | fuel + 1 => do
    unless (← peek) = '%' do return []
    skip 1
    let byte ← hexDigits 2
    return UInt8.ofNat byte :: (← uriEscapes fuel)

def isUriChar (c : Char) : Bool :=
  c.isAlphanum || "-;/?:@&=+$,_.!~*'()[]".toList.contains c

def uriParts : Nat → Scan (List Char)
  | 0 => fail
  | fuel + 1 => do
    let run ← takeWhile isUriChar
    if (← peek) = '%' then
      match Text.Utf8.decode (← uriEscapes fuel) with
      | .ok escaped => return run ++ escaped ++ (← uriParts fuel)
      | .error _ => fail
    return run

/-- The part of a tag behind its handle. -/
def uri : Scan String := do
  match ← uriParts (← fuel) with
  | [] => fail
  | text => return String.ofList text

/-- Whether the tag that comes next has a handle of its own. -/
def hasHandle (cursor : Cursor) : Bool :=
  (cursor.rest.tail.takeWhile fun c => !isSpaceOrEnd c).contains '!'

def tag : Scan Token := do
  let c ← peekAt 1
  let token ←
    if c = '<' then do
      skip 2
      let suffix ← uri
      unless (← peek) = '>' do fail
      skip 1
      pure (Token.tag none suffix)
    else if isGap c then do
      skip 1
      pure (Token.tag none "!")
    else if hasHandle (← get) then do
      let handle ← tagHandle
      pure (Token.tag (some handle) (← uri))
    else do
      skip 1
      pure (Token.tag (some "!") (← uri))
  unless isSpaceOrEnd (← peek) do fail
  return token

/-! ## Directives -/

def versionNumber : Scan Nat := do
  let digits ← takeWhile Char.isDigit
  if digits = [] then fail
  match Text.readInt 10 digits with
  | .ok n => return n.toNat
  | .error (.tooManyDigits n) => throw (.tooManyDigits n)
  | .error .literal => fail

def versionDirective : Scan Directive := do
  skipSpaces
  let major ← versionNumber
  unless (← peek) = '.' do fail
  skip 1
  let minor ← versionNumber
  unless isSpaceOrEnd (← peek) do fail
  return .version major minor

def tagDirective : Scan Directive := do
  skipSpaces
  let handle ← tagHandle
  unless (← peek) = ' ' do fail
  skipSpaces
  let replacement ← uri
  unless isSpaceOrEnd (← peek) do fail
  return .tag handle replacement

def directive : Scan Token := do
  skip 1
  let name ← takeWhile isNameChar
  if name = [] then fail
  unless isSpaceOrEnd (← peek) do fail
  let directive ←
    if name = "YAML".toList then versionDirective
    else if name = "TAG".toList then tagDirective
    else do
      skipWhile (!isLineEnd ·)
      pure Directive.other
  restOfLine
  return .directive directive

end ScriptStats.Yaml.Scan
