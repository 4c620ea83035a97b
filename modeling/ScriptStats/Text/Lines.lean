/-!
# Lines

A text is cut at every line feed. A file that is read as text has its line ends unified first.
-/

namespace ScriptStats.Text

/-- The pieces between the marks, one more than there are marks. -/
def pieces {α : Type} (isMark : α → Bool) : List α → List (List α)
  | [] => [[]]
  | c :: rest =>
    if isMark c then [] :: pieces isMark rest
    else match pieces isMark rest with
      | [] => [[c]]
      | piece :: more => (c :: piece) :: more

/-- Drops one carriage return at the end. -/
def dropReturn (line : List Char) : List Char :=
  if line.getLast? = some '\r' then line.dropLast else line

/-- Drops one line feed at the end. -/
def dropLineFeed (text : List Char) : List Char :=
  if text.getLast? = some '\n' then text.dropLast else text

/-- The lines of a text, without the line feed and one carriage return before it. -/
def lines (text : List Char) : List (List Char) :=
  (pieces (· = '\n') text).map dropReturn

/-- Writes every line end, be it a carriage return, a line feed or both, as one line feed. -/
def unifyLineEnds : List Char → List Char
  | [] => []
  | '\r' :: '\n' :: rest => '\n' :: unifyLineEnds rest
  | c :: rest => (if c = '\r' then '\n' else c) :: unifyLineEnds rest

end ScriptStats.Text
