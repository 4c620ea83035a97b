import ScriptStats.Json.Basic
import ScriptStats.Text.Digit

/-!
# Reading JSON

A reader takes its part from the front of a text and gives what is left. A text that is not JSON
is refused with the place where it goes wrong. Two things are refused although they are JSON:
whole numbers of very many digits and values nested very deeply.
-/

namespace ScriptStats.Json

/-- What is wrong at a place of the text. -/
inductive Flaw where
  | byteOrderMark
  | value
  | name
  | colon
  | comma
  | extra
  | unterminated
  | controlCharacter
  | escape
  | unicodeEscape
  deriving DecidableEq, Repr

inductive Container where
  | array
  | object
  deriving DecidableEq, Repr

inductive ReadError where
  | malformed (flaw : Flaw) (position : Nat)
  | tooManyDigits (digits : Nat)
  | tooDeep (container : Container)
  deriving DecidableEq, Repr

/-- A flaw is told by the number of characters from its place to the end. -/
inductive Failure where
  | malformed (flaw : Flaw) (left : Nat)
  | tooManyDigits (digits : Nat)
  | tooDeep (container : Container)

abbrev Reader (α : Type) := List Char → Except Failure (α × List Char)

def flawAt {α : Type} (flaw : Flaw) (text : List Char) : Except Failure α :=
  .error (.malformed flaw text.length)

def isSpace (c : Char) : Bool :=
  c = ' ' || c = '\t' || c = '\n' || c = '\r'

def skipSpace (text : List Char) : List Char :=
  text.dropWhile isSpace

/-! ## Strings -/

/-- Four hexadecimal digits. -/
def hexFour? : List Char → Option (Nat × List Char)
  | a :: b :: c :: d :: rest => do
    let digits ← [a, b, c, d].mapM Text.hexValue?
    some (Text.ofDigits 16 digits, rest)
  | _ => none

theorem length_of_hexFour? {text rest : List Char} {n : Nat} (h : hexFour? text = some (n, rest)) :
    rest.length < text.length := by
  unfold hexFour? at h
  split at h
  next a b c d rest' =>
    simp only [Option.bind_eq_bind, Option.bind_eq_some_iff, Option.some.injEq,
      Prod.mk.injEq] at h
    obtain ⟨_, _, _, rfl⟩ := h
    simp
    omega
  next => simp at h

def simpleEscape? (c : Char) : Option Char :=
  if c = '"' ∨ c = '\\' ∨ c = '/' then some c
  else if c = 'b' then some '\x08'
  else if c = 'f' then some '\x0c'
  else if c = 'n' then some '\n'
  else if c = 'r' then some '\r'
  else if c = 't' then some '\t'
  else none

/-- Whether a number is the first half of a surrogate pair. -/
def isHighHalf (n : Nat) : Bool := 0xD800 ≤ n && n ≤ 0xDBFF

/-- The rest of an escape by number. More than the digits has to follow. The second half of a
surrogate pair is taken along. -/
def unicodeEscape (text : List Char) :
    Except Failure (CodePoint × { rest : List Char // rest.length < text.length }) :=
  let refuse := .error (.malformed .unicodeEscape (text.length + 1))
  if text.length ≤ 4 then refuse
  else match h : hexFour? text with
    | none => refuse
    | some (first, rest) =>
      have hr := length_of_hexFour? h
      let single : Except Failure (CodePoint × { rest : List Char // rest.length < text.length }) :=
        .ok (.ofNumber first, ⟨rest, hr⟩)
      if isHighHalf first ∧ rest.length > 6 then
        match rest, hr with
        | '\\' :: 'u' :: more, hr =>
          match h' : hexFour? more with
          | none => .error (.malformed .unicodeEscape (more.length + 1))
          | some (second, rest') =>
            match CodePoint.ofPair? first second with
            | some c => .ok (c, ⟨rest', by have := length_of_hexFour? h'; simp at hr; omega⟩)
            | none => single
        | _, _ => single
      else single

/-- The rest of a string whose opening quote has `opened` characters from it to the end. -/
def stringRest (opened : Nat) : Reader RawText
  | [] => .error (.malformed .unterminated opened)
  | c :: text =>
    if c = '"' then .ok ([], text)
    else if c.toNat < 0x20 then flawAt .controlCharacter (c :: text)
    else if c = '\\' then
      match text with
      | [] => .error (.malformed .unterminated opened)
      | e :: text' =>
        if e = 'u' then
          match unicodeEscape text' with
          | .error f => .error f
          | .ok (c', ⟨rest, _⟩) => do
            let (more, rest) ← stringRest opened rest
            return (c' :: more, rest)
        else match simpleEscape? e with
          | none => flawAt .escape (c :: text)
          | some c' => do
            let (more, rest) ← stringRest opened text'
            return (.char c' :: more, rest)
    else do
      let (more, rest) ← stringRest opened text
      return (.char c :: more, rest)
termination_by text => text.length

/-! ## Numbers -/

def digitsOf (text : List Char) : List Char × List Char :=
  text.span Char.isDigit

def natOf (digits : List Char) : Nat :=
  Text.ofDigits 10 (digits.map fun c => c.toNat - 48)

/-- The whole part of a number: one zero, or digits that do not begin with a zero. -/
def wholePart? : List Char → Option (List Char × List Char)
  | '0' :: rest => some (['0'], rest)
  | text =>
    match digitsOf text with
    | ([], _) => none
    | found => some found

/-- The digits after a point; without any, the point is not part of the number. -/
def fractionPart (text : List Char) : List Char × List Char :=
  match text with
  | '.' :: rest =>
    match digitsOf rest with
    | ([], _) => ([], text)
    | found => found
  | _ => ([], text)

/-- The power of ten; without digits, the letter is not part of the number. -/
def exponentPart (text : List Char) : Option Int × List Char :=
  let signed (negative : Bool) (rest : List Char) : Option Int × List Char :=
    match digitsOf rest with
    | ([], _) => (none, text)
    | (digits, rest) =>
      let n : Int := natOf digits
      (some (if negative then -n else n), rest)
  match text with
  | e :: rest =>
    if e = 'e' ∨ e = 'E' then
      match rest with
      | '-' :: rest => signed true rest
      | '+' :: rest => signed false rest
      | rest => signed false rest
    else (none, text)
  | [] => (none, text)

def numberOf (negative : Bool) (start text : List Char) : Except Failure (Json × List Char) :=
  match wholePart? text with
  | none => flawAt .value start
  | some (whole, rest) =>
    let (fraction, rest) := fractionPart rest
    let (exponent, rest) := exponentPart rest
    if fraction = [] ∧ exponent = none then
      if whole.length > Text.digitLimit then .error (.tooManyDigits whole.length)
      else
        let n : Int := natOf whole
        .ok (.int (if negative then -n else n), rest)
    else
      .ok (.float (Binary64.ofDecimal negative (natOf (whole ++ fraction))
        (exponent.getD 0 - fraction.length)), rest)

def number (text : List Char) : Except Failure (Json × List Char) :=
  match text with
  | '-' :: rest => numberOf true text rest
  | _ => numberOf false text text

/-! ## Values -/

/-- Reads a fixed word. -/
def literal? (word : String) (text : List Char) : Option (List Char) :=
  if word.toList.isPrefixOf text then some (text.drop word.length) else none

def constants : List (String × Json) :=
  [("null", .null), ("true", .bool true), ("false", .bool false), ("NaN", .float .nan),
   ("Infinity", .float (.infinite false)), ("-Infinity", .float (.infinite true))]

def constant? (text : List Char) : Option (Json × List Char) :=
  constants.findSome? fun (word, value) => (literal? word text).map (value, ·)

/-- The items of an array that has at least one. Each takes a character, so `fuel` lasts. -/
def items (item : Reader Json) : Nat → Reader (List Json)
  | 0, text => flawAt .value text
  | fuel + 1, text => do
    let (value, text) ← item text
    match skipSpace text with
    | ']' :: rest => return ([value], rest)
    | ',' :: rest =>
      let (more, rest) ← items item fuel (skipSpace rest)
      return (value :: more, rest)
    | text => flawAt .comma text

def arrayRest (item : Reader Json) (text : List Char) : Except Failure (Json × List Char) :=
  match skipSpace text with
  | ']' :: rest => .ok (.array [], rest)
  | text => do
    let (values, rest) ← items item (text.length + 1) text
    return (.array values, rest)

/-- The fields of an object that has at least one. Each takes a character, so `fuel` lasts. -/
def fields (item : Reader Json) : Nat → Reader (List (RawText × Json))
  | 0, text => flawAt .name text
  | fuel + 1, text =>
    match text with
    | '"' :: inside => do
      let (name, text) ← stringRest text.length inside
      match skipSpace text with
      | ':' :: text =>
        let (value, text) ← item (skipSpace text)
        let pair := (name, value)
        match skipSpace text with
        | '}' :: rest => return ([pair], rest)
        | ',' :: rest =>
          let (more, rest) ← fields item fuel (skipSpace rest)
          return (pair :: more, rest)
        | text => flawAt .comma text
      | text => flawAt .colon text
    | _ => flawAt .name text

def objectRest (item : Reader Json) (text : List Char) : Except Failure (Json × List Char) :=
  match skipSpace text with
  | '}' :: rest => .ok (.object [], rest)
  | text => do
    let (pairs, rest) ← fields item (text.length + 1) text
    return (objectOf pairs, rest)

/-- A value that may hold `depth` levels of arrays and objects. -/
def value : Nat → Reader Json
  | depth, text =>
    match text with
    | '"' :: inside => do
      let (s, rest) ← stringRest text.length inside
      return (.string s, rest)
    | '[' :: inside =>
      match depth with
      | 0 => .error (.tooDeep .array)
      | depth + 1 => arrayRest (value depth) inside
    | '{' :: inside =>
      match depth with
      | 0 => .error (.tooDeep .object)
      | depth + 1 => objectRest (value depth) inside
    | _ =>
      match constant? text with
      | some found => .ok found
      | none => number text

def document (depth : Nat) (text : List Char) : Except Failure Json :=
  match text with
  | '\uFEFF' :: _ => flawAt .byteOrderMark text
  | _ => do
    let (value, rest) ← value depth (skipSpace text)
    match skipSpace rest with
    | [] => return value
    | rest => flawAt .extra rest

/-- Reads a text in which at most `depth` arrays and objects stand inside one another. -/
def parse (depth : Nat) (text : List Char) : Except ReadError Json :=
  match document depth text with
  | .ok value => .ok value
  | .error (.malformed flaw left) => .error (.malformed flaw (text.length - left))
  | .error (.tooManyDigits digits) => .error (.tooManyDigits digits)
  | .error (.tooDeep container) => .error (.tooDeep container)

/-! ## Wording -/

def Container.name : Container → String
  | .array => "array"
  | .object => "object"

def Flaw.message : Flaw → String
  | .byteOrderMark => "Unexpected UTF-8 BOM (decode using utf-8-sig)"
  | .value => "Expecting value"
  | .name => "Expecting property name enclosed in double quotes"
  | .colon => "Expecting ':' delimiter"
  | .comma => "Expecting ',' delimiter"
  | .extra => "Extra data"
  | .unterminated => "Unterminated string starting at"
  | .controlCharacter => "Invalid control character at"
  | .escape => "Invalid \\escape"
  | .unicodeEscape => "Invalid \\uXXXX escape"

/-- The wording for a whole number of too many digits. -/
def digitLimitMessage (digits : Nat) : String :=
  "Exceeds the limit (" ++ toString Text.digitLimit
    ++ " digits) for integer string conversion: value has " ++ toString digits
    ++ " digits; use sys.set_int_max_str_digits() to increase the limit"

def ReadError.message : ReadError → String
  | .malformed flaw position => flaw.message ++ ": char " ++ toString position
  | .tooManyDigits digits => digitLimitMessage digits
  | .tooDeep container =>
    "maximum recursion depth exceeded while decoding a JSON " ++ container.name
      ++ " from a unicode string"

end ScriptStats.Json
