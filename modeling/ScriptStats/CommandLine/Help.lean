import ScriptStats.CommandLine.Arguments

/-!
# Help

The usage and the help page of a command, made from its grammar. Both are filled up to a fixed
width. On a help page all explanations start in one column, two places right of the longest label.
-/

namespace ScriptStats.CommandLine

def pageWidth : Nat := 78

/-- Puts as many words on each line as fit. A word that is too long has a line of its own. -/
def fill (width : Nat) : List String → List String
  | [] => []
  | word :: words =>
    match fill.go word words with
    | (line, lines) => line :: lines
where
  /-- Goes on with the line that has begun. -/
  go (line : String) : List String → String × List String
    | [] => (line, [])
    | word :: words =>
      if line.length + 1 + word.length ≤ width then go (line ++ " " ++ word) words
      else
        let (next, lines) := go word words
        (line, next :: lines)

def indented (n : Nat) (text : String) : String :=
  "".pushn ' ' n ++ text

def unlines (lines : List String) : String :=
  String.join (lines.map (· ++ "\n"))

variable {α : Type}

namespace Switch

/-- A name as it is written in front of a value. -/
def withValue (switch : Switch α) (name : String) : String :=
  if switch.valueName = "" then name else name ++ " " ++ switch.valueName

def usage (switch : Switch α) : String :=
  "[" ++ switch.withValue (switch.names.headD "") ++ "]"

end Switch

namespace Operand

def helpLabel (operand : Operand α) : String :=
  match operand.kind with
  | .command => "\x7b" ++ ",".intercalate (operand.choices.map Prod.fst) ++ "\x7d"
  | _ => operand.name

def usage (operand : Operand α) : String :=
  match operand.kind with
  | .required => operand.name
  | .optional => "[" ++ operand.name ++ "]"
  | .command => operand.helpLabel ++ " ..."

end Operand

/-- A label with its explanation. -/
structure HelpItem where
  indent : Nat
  label : String
  text : String
  deriving DecidableEq

namespace HelpItem

def width (item : HelpItem) : Nat :=
  item.indent + item.label.length

def lines (column : Nat) (item : HelpItem) : List String :=
  let label := indented item.indent item.label
  match fill (pageWidth - column) (item.text.splitOn " ") with
  | first :: more =>
    if item.text = "" then [label]
    else (label ++ indented (column - item.width) first) :: more.map (indented column)
  | [] => [label]

end HelpItem

namespace Grammar

variable (grammar : Grammar α)

/-- How the command is used: on one line if that is wide enough, else the switches and the operand
on lines of their own. -/
def usage (program : String) : String :=
  let start := "usage: " ++ program ++ " "
  let switches := grammar.switches.map Switch.usage
  let operands := (grammar.operand.map Operand.usage).toList
  let whole := start ++ " ".intercalate (switches ++ operands)
  if whole.length ≤ pageWidth then unlines [whole]
  else
    let width := pageWidth - start.length
    match fill width switches ++ fill width operands with
    | [] => unlines [whole]
    | first :: more => unlines ((start ++ first) :: more.map (indented start.length))

def operandItems : List HelpItem :=
  match grammar.operand with
  | none => []
  | some operand =>
    ⟨2, operand.helpLabel, operand.help⟩ :: operand.choices.map fun (name, help) => ⟨4, name, help⟩

def switchItems : List HelpItem :=
  grammar.switches.map fun switch =>
    ⟨2, ", ".intercalate (switch.names.map switch.withValue), switch.help⟩

def helpPart (column : Nat) (title : String) (items : List HelpItem) : String :=
  if items = [] then ""
  else "\n" ++ unlines ((title ++ ":") :: items.flatMap (HelpItem.lines column))

/-- The help page of a command. -/
def help (program about : String) : String :=
  let operands := grammar.operandItems
  let switches := grammar.switchItems
  let column := ((operands ++ switches).map HelpItem.width).foldl max 0 + 2
  grammar.usage program
    ++ (if about = "" then "" else "\n" ++ unlines (fill pageWidth (about.splitOn " ")))
    ++ helpPart column "positional arguments" operands
    ++ helpPart column "options" switches

end Grammar

end ScriptStats.CommandLine
