import ScriptStats.Yaml.Token.Name
import ScriptStats.Yaml.Token.Scalar

/-!
# Reading tokens

A key without a mark of its own is only known for one when the colon behind it is met. Until then
its place among the tokens is remembered, and the mark of the key is put in afterwards. Such a key
stays on one line and is not longer than `keyLengthLimit`. As long as a key is possible, neither its
token nor any behind it is settled; where a text cannot be read on, what is not settled is lost.
-/

namespace ScriptStats.Yaml

/-- Where a key may have begun. In a block, what begins at the indentation has to be a key. -/
structure PossibleKey where
  token : Nat
  required : Bool
  index : Nat
  line : Nat
  column : Nat

structure Lexer where
  cursor : Cursor
  /-- How many flow collections are open. -/
  flow : Nat := 0
  /-- The column of the innermost block, or less than zero. -/
  indent : Int := -1
  outerIndents : List Int := []
  keyAllowed : Bool := true
  /-- The last possible key of every flow level. -/
  possibleKeys : List (Nat × PossibleKey) := []
  /-- The tokens so far, the last one first. -/
  tokens : List Token := []
  count : Nat := 0
  /-- How many tokens were settled when the last one was begun. -/
  settled : Nat := 0
  finished : Bool := false

abbrev Lex := ExceptT Fault (StateM Lexer)

namespace Lex

def fail {α : Type} : Lex α := throw .malformed

/-- Reads on at the cursor. -/
def scan {α : Type} (reader : Scan α) : Lex α := do
  let lexer ← get
  match reader.run lexer.cursor with
  | .ok (a, cursor) =>
    set { lexer with cursor }
    return a
  | .error fault => throw fault

def push (token : Token) : Lex Unit :=
  modify fun s => { s with tokens := token :: s.tokens, count := s.count + 1 }

/-- Puts a token before the one with the given number. -/
def pushBefore (number : Nat) (token : Token) : Lex Unit :=
  modify fun s =>
    { s with tokens := s.tokens.insertIdx (s.count - number) token, count := s.count + 1 }

def allowKey (allowed : Bool) : Lex Unit :=
  modify fun s => { s with keyAllowed := allowed }

/-! ## Possible keys -/

def keyLengthLimit : Nat := 1024

def isStale (cursor : Cursor) (key : PossibleKey) : Bool :=
  key.line ≠ cursor.line || cursor.index - key.index > keyLengthLimit

/-- Gives up the keys that the text has passed by. -/
def dropStaleKeys : Lex Unit := do
  let lexer ← get
  let stale (entry : Nat × PossibleKey) : Bool := isStale lexer.cursor entry.2
  if lexer.possibleKeys.any fun entry => stale entry && entry.2.required then fail
  set { lexer with possibleKeys := lexer.possibleKeys.filter (!stale ·) }

/-- Gives up the possible key of the present flow level. -/
def dropKey : Lex Unit := do
  let lexer ← get
  match lexer.possibleKeys.lookup lexer.flow with
  | none => return
  | some key =>
    if key.required then fail
    set { lexer with possibleKeys := lexer.possibleKeys.filter (·.1 ≠ lexer.flow) }

/-- Remembers that a key may begin here. -/
def noteKey : Lex Unit := do
  let lexer ← get
  if lexer.keyAllowed then
    dropKey
    let cursor := lexer.cursor
    let required := lexer.flow = 0 && lexer.indent = cursor.column
    let key : PossibleKey := ⟨lexer.count, required, cursor.index, cursor.line, cursor.column⟩
    modify fun s => { s with possibleKeys := (s.flow, key) :: s.possibleKeys }

/-! ## Indentation -/

/-- Closes the blocks that are indented further than `column`. -/
def closeBlocks (column : Int) : List Int → Lex Unit
  | [] => return
  | outer :: more => do
    let lexer ← get
    if lexer.indent > column then
      set { lexer with indent := outer, outerIndents := more }
      push .blockEnd
      closeBlocks column more

def unwind (column : Int) : Lex Unit := do
  let lexer ← get
  if lexer.flow = 0 then closeBlocks column lexer.outerIndents

/-- Opens a block at `column` if that is further in; tells whether it did. -/
def openBlock (column : Nat) : Lex Bool := do
  let lexer ← get
  if lexer.indent < column then
    set { lexer with indent := column, outerIndents := lexer.indent :: lexer.outerIndents }
    return true
  return false

/-! ## Tokens -/

def skipToToken : Nat → Lex Unit
  | 0 => fail
  | fuel + 1 => do
    scan Scan.skipSpaces
    if (← scan Scan.peek) = '#' then scan (Scan.skipWhile (!isLineEnd ·))
    if (← scan Scan.lineBreak) ≠ [] then
      if (← get).flow = 0 then allowKey true
      skipToToken fuel

def readStreamEnd : Lex Unit := do
  unwind (-1)
  dropKey
  allowKey false
  push .streamEnd
  modify fun s => { s with possibleKeys := [], finished := true }

def readDirective : Lex Unit := do
  unwind (-1)
  dropKey
  allowKey false
  push (← scan Scan.directive)

def readDocumentMark (token : Token) : Lex Unit := do
  unwind (-1)
  dropKey
  allowKey false
  scan (Scan.skip 3)
  push token

def readFlowStart (token : Token) : Lex Unit := do
  noteKey
  modify fun s => { s with flow := s.flow + 1, keyAllowed := true }
  scan (Scan.skip 1)
  push token

def readFlowEnd (token : Token) : Lex Unit := do
  dropKey
  if (← get).flow = 0 then fail
  modify fun s => { s with flow := s.flow - 1, keyAllowed := false }
  scan (Scan.skip 1)
  push token

def readFlowEntry : Lex Unit := do
  allowKey true
  dropKey
  scan (Scan.skip 1)
  push .flowEntry

/-- Makes sure that the block `start` is open where a mark stands that begins one. -/
def requireBlock (start : Token) : Lex Unit := do
  let lexer ← get
  if lexer.flow = 0 then
    unless lexer.keyAllowed do fail
    if ← openBlock lexer.cursor.column then push start

def readBlockEntry : Lex Unit := do
  requireBlock .blockSequenceStart
  allowKey true
  dropKey
  scan (Scan.skip 1)
  push .blockEntry

def readKey : Lex Unit := do
  requireBlock .blockMappingStart
  allowKey ((← get).flow = 0)
  dropKey
  scan (Scan.skip 1)
  push .key

def readValue : Lex Unit := do
  let lexer ← get
  match lexer.possibleKeys.lookup lexer.flow with
  | some key =>
    set { lexer with possibleKeys := lexer.possibleKeys.filter (·.1 ≠ lexer.flow) }
    pushBefore key.token .key
    if lexer.flow = 0 then
      if ← openBlock key.column then pushBefore key.token .blockMappingStart
    allowKey false
  | none =>
    requireBlock .blockMappingStart
    allowKey (lexer.flow = 0)
    dropKey
  scan (Scan.skip 1)
  push .value

def readAnchor (make : String → Token) : Lex Unit := do
  noteKey
  allowKey false
  push (make (← scan Scan.anchorName))

def readTag : Lex Unit := do
  noteKey
  allowKey false
  push (← scan Scan.tag)

def readBlockScalar (folded : Bool) : Lex Unit := do
  allowKey true
  dropKey
  let indent := (← get).indent
  push (.scalar (← scan (Scan.blockScalar folded indent)) false)

def readQuoted (double : Bool) : Lex Unit := do
  noteKey
  allowKey false
  push (.scalar (← scan (Scan.quotedScalar double)) false)

def readPlain : Lex Unit := do
  noteKey
  let lexer ← get
  let (text, broken) ← scan (Scan.plainScalar (lexer.flow ≠ 0) (lexer.indent + 1))
  allowKey broken
  push (.scalar text true)

/-- Whether a plain scalar may begin with `c` before `next`. -/
def beginsPlain (inFlow : Bool) (c next : Char) : Bool :=
  !(isGap c || "-?:,[]\x7b\x7d#&*!|>'\"%@\x60".toList.contains c)
    || (!isGap next && (c = '-' || (!inFlow && (c = '?' || c = ':'))))

/-- Reads one token and the marks that come with it. -/
def readToken : Lex Unit := do
  skipToToken ((← get).cursor.rest.length + 1)
  dropStaleKeys
  unwind (← get).cursor.column
  let lexer ← get
  let cursor := lexer.cursor
  let c := cursor.peekAt 0
  let next := cursor.peekAt 1
  let inFlow := lexer.flow ≠ 0
  if c = '\x00' then readStreamEnd
  else if c = '%' && cursor.column = 0 then readDirective
  else if cursor.column = 0 && cursor.atMark '-' then readDocumentMark .documentStart
  else if cursor.column = 0 && cursor.atMark '.' then readDocumentMark .documentEnd
  else if c = '[' then readFlowStart .flowSequenceStart
  else if c = '\x7b' then readFlowStart .flowMappingStart
  else if c = ']' then readFlowEnd .flowSequenceEnd
  else if c = '\x7d' then readFlowEnd .flowMappingEnd
  else if c = ',' then readFlowEntry
  else if c = '-' && isGap next then readBlockEntry
  else if c = '?' && (inFlow || isGap next) then readKey
  else if c = ':' && (inFlow || isGap next) then readValue
  else if c = '*' then readAnchor .alias
  else if c = '&' then readAnchor .anchor
  else if c = '!' then readTag
  else if c = '|' && !inFlow then readBlockScalar false
  else if c = '>' && !inFlow then readBlockScalar true
  else if c = '\'' then readQuoted false
  else if c = '"' then readQuoted true
  else if beginsPlain inFlow c next then readPlain
  else fail

/-- Notes how many tokens are settled: those before the first possible key. -/
def settle : Lex Unit := do
  dropStaleKeys
  modify fun s =>
    { s with settled := s.possibleKeys.foldl (fun n (_, key) => min n key.token) s.count }

def readTokens : Nat → Lex Unit
  | 0 => fail
  | fuel + 1 => do
    unless (← get).finished do
      settle
      readToken
      readTokens fuel

end Lex

/-- The characters that a text may have. -/
def isAllowed (c : Char) : Bool :=
  c = '\t' || c = '\n' || c = '\r' || ('\x20' ≤ c && c ≤ '\x7e') || c = '\x85'
    || ('\xa0' ≤ c && c ≤ '\uFFFD') || 0x10000 ≤ c.toNat

/-- A byte order mark at the very start is skipped. -/
def startCursor (text : List Char) : Cursor :=
  let cursor : Cursor := { rest := text }
  if text.head? = some '\uFEFF' then cursor.next else cursor

/-- The settled tokens of a text, and what is wrong behind the last of them. -/
def tokens (text : List Char) : List Token × Option Fault :=
  if text.all isAllowed then
    let lexer : Lexer := { cursor := startCursor text }
    match (Lex.readTokens (text.length + 2)).run.run lexer with
    | (.ok (), lexer) => (lexer.tokens.reverse, none)
    | (.error fault, lexer) => (lexer.tokens.reverse.take lexer.settled, some fault)
  else ([], some .malformed)

end ScriptStats.Yaml
