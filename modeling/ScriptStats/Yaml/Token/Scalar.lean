import ScriptStats.Yaml.Token.Cursor

/-!
# Scalars

The texts of scalars: quoted, plain, and those of block scalars. A single line break inside a
quoted or plain scalar is a blank; of several, the first is dropped.
-/

namespace ScriptStats.Yaml.Scan

/-- What a line break and the breaks after it stand for. -/
def fold (first : List Char) (breaks : List (List Char)) : List Char :=
  if first ≠ ['\n'] then first ++ breaks.flatten
  else if breaks = [] then [' ']
  else breaks.flatten

/-! ## Quoted scalars -/

/-- The line breaks that follow, with the blanks around them. -/
def quotedBreaks : Nat → Scan (List (List Char))
  | 0 => fail
  | fuel + 1 => do
    if (← get).atDocumentMark then fail
    skipWhile fun c => c = ' ' || c = '\t'
    match ← lineBreak with
    | [] => return []
    | found => return found :: (← quotedBreaks fuel)

def simpleEscapes : List (Char × Char) :=
  [('0', '\x00'), ('a', '\x07'), ('b', '\x08'), ('t', '\t'), ('\t', '\t'), ('n', '\n'),
   ('v', '\x0b'), ('f', '\x0c'), ('r', '\r'), ('e', '\x1b'), (' ', ' '), ('"', '"'), ('\\', '\\'),
   ('/', '/'), ('N', '\x85'), ('_', '\xa0'), ('L', '\u2028'), ('P', '\u2029')]

/-- How many hexadecimal digits follow the letter. -/
def numericEscapes : List (Char × Nat) :=
  [('x', 2), ('u', 4), ('U', 8)]

def codePoint (n : Nat) : Scan CodePoint :=
  if n > 0x10FFFF then throw (.codePoint n) else return .ofNumber n

/-- An escape of a scalar in double quotes. -/
def escape : Scan RawText := do
  skip 1
  let c ← peek
  match simpleEscapes.lookup c, numericEscapes.lookup c with
  | some written, _ =>
    skip 1
    return [.char written]
  | none, some width =>
    skip 1
    return [← codePoint (← hexDigits width)]
  | none, none =>
    unless isBreak c do fail
    let _ ← lineBreak
    return RawText.ofChars (← quotedBreaks (← fuel)).flatten

/-- The text up to a gap or the closing quote. -/
def quotedRun (double : Bool) : Nat → Scan RawText
  | 0 => fail
  | fuel + 1 => do
    let run := RawText.ofChars
      (← takeWhile fun c => !(isGap c || c = '\'' || c = '"' || c = '\\'))
    let c ← peek
    if !double && c = '\'' && (← peekAt 1) = '\'' then
      skip 2
      return run ++ .char '\'' :: (← quotedRun double fuel)
    if (double && c = '\'') || (!double && (c = '"' || c = '\\')) then
      skip 1
      return run ++ .char c :: (← quotedRun double fuel)
    if double && c = '\\' then
      let escaped ← escape
      return run ++ escaped ++ (← quotedRun double fuel)
    return run

def quotedGap : Scan (List Char) := do
  let blanks ← takeWhile fun c => c = ' ' || c = '\t'
  if (← peek) = '\x00' then fail
  match ← lineBreak with
  | [] => return blanks
  | first => return fold first (← quotedBreaks (← fuel))

def quotedRest (double : Bool) : Nat → Scan RawText
  | 0 => fail
  | fuel + 1 => do
    let run ← quotedRun double (← Scan.fuel)
    if (← peek) = (if double then '"' else '\'') then
      skip 1
      return run
    let gap := RawText.ofChars (← quotedGap)
    return run ++ gap ++ (← quotedRest double fuel)

def quotedScalar (double : Bool) : Scan RawText := do
  skip 1
  quotedRest double (← fuel)

/-! ## Plain scalars -/

/-- Whether a plain scalar ends before `c`, which is followed by `next`. -/
def endsPlain (inFlow : Bool) (c next : Char) : Bool :=
  isGap c
    || (c = ':' && (isGap next || (inFlow && ",[]\x7b\x7d".toList.contains next)))
    || (inFlow && ",?[]\x7b\x7d".toList.contains c)

/-- How many characters a plain scalar goes on without a gap. -/
def plainLength (inFlow : Bool) : List Char → Nat
  | [] => 0
  | c :: rest => if endsPlain inFlow c (rest.headD '\x00') then 0 else plainLength inFlow rest + 1

/-- The line breaks that follow, and the blanks around them. A document mark ends it all. -/
def plainBreaks : Nat → Scan (Option (List (List Char)))
  | 0 => fail
  | fuel + 1 => do
    skipSpaces
    match ← lineBreak with
    | [] => return some []
    | found =>
      if (← get).atDocumentMark then return none
      return (← plainBreaks fuel).map (found :: ·)

/-- The gap inside a plain scalar, and whether it breaks the line. An empty gap ends the scalar. -/
def plainGap : Scan (List Char × Bool) := do
  let blanks ← takeWhile (· = ' ')
  match ← lineBreak with
  | [] => return (blanks, false)
  | first =>
    if (← get).atDocumentMark then return ([], true)
    match ← plainBreaks (← fuel) with
    | none => return ([], true)
    | some breaks => return (fold first breaks, true)

/-- The rest of a plain scalar behind a gap, and whether the last gap broke the line. -/
def plainRest (inFlow : Bool) (indent : Int) (gap : List Char) (broken : Bool) :
    Nat → Scan (List Char × Bool)
  | 0 => fail
  | fuel + 1 => do
    let cursor ← get
    if cursor.peekAt 0 = '#' then return ([], broken)
    match plainLength inFlow cursor.rest with
    | 0 => return ([], broken)
    | n =>
      let run ← take n
      let (next, broken) ← plainGap
      let cursor ← get
      if next = [] || cursor.peekAt 0 = '#' || (!inFlow && decide (cursor.column < indent)) then
        return (gap ++ run, broken)
      let (more, broken) ← plainRest inFlow indent next broken fuel
      return (gap ++ run ++ more, broken)

/-- A plain scalar, and whether the gap behind it breaks the line. -/
def plainScalar (inFlow : Bool) (indent : Int) : Scan (String × Bool) := do
  let (text, broken) ← plainRest inFlow indent [] false (← fuel)
  return (String.ofList text, broken)

/-! ## Block scalars -/

inductive Chomping where
  | strip
  | clip
  | keep

def chomping? (c : Char) : Option Chomping :=
  if c = '+' then some .keep else if c = '-' then some .strip else none

/-- The sign that tells what becomes of the last line breaks, if it comes next. -/
def chompingSign : Scan (Option Chomping) := do
  match chomping? (← peek) with
  | none => return none
  | some found =>
    skip 1
    return some found

/-- A digit that tells the indentation, if it comes next. -/
def indentDigit : Scan (Option Nat) := do
  let c ← peek
  unless c.isDigit do return none
  if c = '0' then fail
  skip 1
  return some (c.toNat - 48)

/-- The header of a block scalar; its two parts come in any order. -/
def blockHeader : Scan (Chomping × Option Nat) := do
  let before ← chompingSign
  let indent ← indentDigit
  let after ← if before.isNone && indent.isSome then chompingSign else pure none
  unless isSpaceOrEnd (← peek) do fail
  restOfLine
  return ((before.or after).getD .clip, indent)

/-- The line breaks before the first line, and the widest indentation on the way. -/
def leadingBreaks : Nat → Scan (List (List Char) × Nat)
  | 0 => fail
  | fuel + 1 => do
    if (← peek) = ' ' then
      skip 1
      let column := (← get).column
      let (breaks, width) ← leadingBreaks fuel
      return (breaks, max column width)
    match ← lineBreak with
    | [] => return ([], 0)
    | found =>
      let (breaks, width) ← leadingBreaks fuel
      return (found :: breaks, width)

/-- Goes on to the column of the indentation as far as there are blanks. -/
def skipIndent (indent : Nat) : Scan Unit := do
  let cursor ← get
  skip ((cursor.rest.takeWhile (· = ' ')).length.min (indent - cursor.column))

def blockBreaks (indent : Nat) : Nat → Scan (List (List Char))
  | 0 => fail
  | fuel + 1 => do
    skipIndent indent
    match ← lineBreak with
    | [] => return []
    | found => return found :: (← blockBreaks indent fuel)

def isBlankStart (c : Char) : Bool :=
  c = ' ' || c = '\t'

/-- The lines of a block scalar, the line break of the last one, and the breaks after it. -/
def blockLines (folded : Bool) (indent : Nat) (breaks : List (List Char)) :
    Nat → Scan (List Char × List Char × List (List Char))
  | 0 => fail
  | fuel + 1 => do
    let first ← peek
    unless (← get).column = indent && first ≠ '\x00' do return ([], [], breaks)
    let text ← takeWhile (!isLineEnd ·)
    let ending ← lineBreak
    let after ← blockBreaks indent (← Scan.fuel)
    let line := breaks.flatten ++ text
    let next ← peek
    unless (← get).column = indent && next ≠ '\x00' do return (line, ending, after)
    let joint :=
      if folded && ending = ['\n'] && !isBlankStart first && !isBlankStart next then
        if after = [] then [' '] else []
      else ending
    let (more, ending, after) ← blockLines folded indent after fuel
    return (line ++ joint ++ more, ending, after)

def blockScalar (folded : Bool) (parent : Int) : Scan String := do
  skip 1
  let (chomping, digit) ← blockHeader
  let least := (max (parent + 1) 1).toNat
  let (indent, breaks) ← match digit with
    | none => do
      let (breaks, width) ← leadingBreaks (← fuel)
      pure (max least width, breaks)
    | some digit => do
      let indent := least + digit - 1
      pure (indent, ← blockBreaks indent (← fuel))
  let (text, ending, after) ← blockLines folded indent breaks (← fuel)
  let tail := match chomping with
    | .strip => []
    | .clip => ending
    | .keep => ending ++ after.flatten
  return String.ofList (text ++ tail)

end ScriptStats.Yaml.Scan
