import ScriptStats.Text.Digit
import ScriptStats.Text.Lines

/-!
# Addresses

The same resource has many addresses. A host in front does not matter, nor do dots for a directory
and its parent, slashes at the end and what follows a question mark; characters may be written by
their numbers, also twice over.
-/

namespace ScriptStats.Service

inductive Resource where
  | health
  | workspace
  | script
  | text
  deriving DecidableEq, Repr

namespace Resource

def all : List Resource := [health, workspace, script, text]

def address : Resource → String
  | health => "/health"
  | workspace => "/stats"
  | script => "/file"
  | text => "/text"

def method : Resource → String
  | health => "GET"
  | _ => "POST"

end Resource

namespace Address

def isSlash (c : Char) : Bool :=
  c = '/'

/-- Drops what follows a question mark or a number sign. -/
def withoutQuery (text : List Char) : List Char :=
  text.takeWhile fun c => c ≠ '?' && c ≠ '#'

/-- Drops the host behind two slashes. -/
def withoutHost : List Char → List Char
  | '/' :: '/' :: rest => rest.dropWhile (!isSlash ·)
  | text => text

/-- Enters the directories one by one. `entered` holds those entered so far, the last first. -/
def enter (entered : List (List Char)) : List (List Char) → List (List Char)
  | [] => entered.reverse
  | name :: names =>
    if name = ['.'] then enter entered names
    else if name = ['.', '.'] then enter entered.tail names
    else enter (name :: entered) names

/-- The path from the root, without dots for a directory and its parent. -/
def pathFrom (text : List Char) : List Char :=
  (enter [] (Text.pieces isSlash (text.dropWhile isSlash))).flatMap ('/' :: ·)

/-- The character of a byte. One beyond ASCII is part of no address that is known. -/
def charOfByte (n : Nat) : Char :=
  if n < 0x80 then Char.ofNat n else '\uFFFD'

/-- Reads characters that are written by their numbers in hexadecimal digits. -/
def decoded : List Char → List Char
  | '%' :: a :: b :: rest =>
    match Text.hexValue? a, Text.hexValue? b with
    | some high, some low => charOfByte (high * 16 + low) :: decoded rest
    | _, _ => '%' :: decoded (a :: b :: rest)
  | c :: rest => c :: decoded rest
  | [] => []

/-- Drops the slashes at the end. -/
def withoutSlashes (text : List Char) : List Char :=
  (text.reverse.dropWhile isSlash).reverse

/-- The address in the form in which resources have theirs. A line feed at its end does not
matter. -/
def plain (text : List Char) : List Char :=
  let path := decoded (decoded (pathFrom (withoutHost (withoutQuery text))))
  Text.dropLineFeed (withoutSlashes path)

end Address

def Resource.ofAddress? (address : String) : Option Resource :=
  let plain := Address.plain address.toList
  all.find? fun r => r.address.toList = plain

end ScriptStats.Service
