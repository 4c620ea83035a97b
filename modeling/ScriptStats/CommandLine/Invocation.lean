import ScriptStats.CommandLine.Help
import ScriptStats.Path
import ScriptStats.Text.Number

/-!
# Invocations

What the arguments of the program ask for. The program has three commands, each with a grammar of
its own; in front of the command stand the switches that all of them share. Arguments that neither
has a place for are refused together, after everything else is in order.
-/

namespace ScriptStats.CommandLine

/-- The end of a run: the exit code and what is written to the two outputs. -/
structure Exit where
  code : Nat
  output : String := ""
  errors : String := ""
  deriving DecidableEq, Repr

structure ScanOptions where
  path : String := "."
  /-- Directories to leave out besides those of the settings. A name may have been dropped. -/
  exclude : List (Option String) := []
  asJson : Bool := false
  uniqueWords : Bool := false
  noCache : Bool := false
  summary : Bool := false
  deriving DecidableEq, Repr

structure FileOptions where
  path : String := ""
  asJson : Bool := false
  uniqueWords : Bool := false
  deriving DecidableEq, Repr

/-- Where the service is to run, as far as this is left to say once values have been dropped. -/
structure ServeOptions where
  host : Option String := some "127.0.0.1"
  port : Option Int := some 8000
  deriving DecidableEq, Repr

inductive Command where
  | scan (options : ScanOptions)
  | file (options : FileOptions)
  | serve (options : ServeOptions)
  deriving DecidableEq, Repr

/-- Where the records go besides the console. -/
inductive LogTarget where
  | nowhere
  | file (path : Path)
  /-- A log file was asked for, but its name has been dropped. -/
  | nameless
  deriving DecidableEq, Repr

structure Invocation where
  verbose : Bool
  logTarget : LogTarget
  command : Command
  deriving DecidableEq, Repr

inductive CommandName where
  | scan
  | file
  | serve
  deriving DecidableEq, Repr

namespace CommandName

def all : List CommandName := [scan, file, serve]

def name : CommandName → String
  | scan => "scan"
  | file => "file"
  | serve => "serve"

def about : CommandName → String
  | scan => "Aggregate statistics for every script under a directory."
  | file => "Show statistics for a single script file."
  | serve => "Run the HTTP service."

def ofName? (name : String) : Option CommandName :=
  all.find? (·.name = name)

/-- The wording for a name that no command bears. -/
def unknownName (name : String) : String :=
  "invalid choice: " ++ Text.quoted name ++ " (choose from "
    ++ ", ".intercalate (all.map fun c => Text.quoted c.name) ++ ")"

end CommandName

def program : String := "nanistats"

def about : String :=
  "Count dialogue characters, words and speakers in Naninovel scripts."

/-! ## The grammars -/

section Switches

variable {α : Type}

def helpSwitch : Switch α :=
  ⟨["-h", "--help"], .help, "show this help message and exit", ""⟩

def verboseSwitch (set : α → α) : Switch α :=
  ⟨["-v", "--verbose"], .flag set, "Increase log verbosity for troubleshooting.", ""⟩

def jsonSwitch (set : α → α) : Switch α :=
  ⟨["--json"], .flag set, "Print results as JSON instead of a text report.", ""⟩

def uniqueWordsSwitch (set : α → α) : Switch α :=
  ⟨["--unique-words"], .flag set, "List de-duplicated words instead of every occurrence.", ""⟩

/-- A switch that takes any text. -/
def textSwitch (name valueName help : String) (set : Option String → α → α) : Switch α :=
  ⟨[name], .value fun text => .ok (set text), help, valueName⟩

/-- A switch that takes a whole number. -/
def numberSwitch (name valueName help : String) (set : Option Int → α → α) : Switch α where
  names := [name]
  effect := .value fun
    | none => .ok (set none)
    | some text =>
      match Text.readInt 10 text.toList with
      | .ok n => .ok (set (some n))
      | .error _ => .error ("invalid int value: " ++ Text.quoted text)
  help := help
  valueName := valueName

def pathOperand (kind : OperandKind) (help : String) (set : String → α → α) : Operand α where
  name := "path"
  kind := kind
  set texts := .ok (match texts with
    | text :: _ => set text
    | [] => id)
  help := help

end Switches

/-- What the arguments have told before the command is looked at. -/
structure Opening where
  verbose : Bool := false
  logTarget : LogTarget := .nowhere
  command : Option (CommandName × List String) := none

namespace Opening

def setCommand : List String → Except String (Opening → Opening)
  | [] => .ok id
  | name :: rest =>
    match CommandName.ofName? name with
    | some command => .ok fun o => { o with command := some (command, rest) }
    | none => .error (CommandName.unknownName name)

def grammar : Grammar Opening where
  switches :=
    [helpSwitch, verboseSwitch fun o => { o with verbose := true },
     textSwitch "--log-file" "LOG_FILE" "Also write log records to this file." fun text o =>
      { o with logTarget := (text.map fun t => .file (Path.ofString t)).getD .nameless }]
  operand := some
    { name := "command", kind := .command, set := setCommand,
      choices := CommandName.all.map fun c => (c.name, c.about) }

end Opening

/-- The options of a command, and whether it is asked to be verbose. -/
structure Options (α : Type) where
  verbose : Bool
  value : α

namespace Options

variable {α : Type}

def modify (f : α → α) (o : Options α) : Options α :=
  { o with value := f o.value }

def beVerbose (o : Options α) : Options α :=
  { o with verbose := true }

end Options

open Options in
def ScanOptions.grammar : Grammar (Options ScanOptions) where
  switches :=
    [helpSwitch, verboseSwitch beVerbose,
     jsonSwitch (modify fun o => { o with asJson := true }),
     uniqueWordsSwitch (modify fun o => { o with uniqueWords := true }),
     textSwitch "--exclude" "NAME" "Directory name to skip; may be repeated." fun name =>
      modify fun o => { o with exclude := o.exclude ++ [name] },
     ⟨["--no-cache"], .flag (modify fun o => { o with noCache := true }),
      "Ignore the per-file stats cache for this run.", ""⟩,
     ⟨["--summary"], .flag (modify fun o => { o with summary := true }),
      "Print totals only, without the per-directory tree.", ""⟩]
  operand := some <|
    pathOperand .optional "Path to the workspace root (defaults to current directory)." fun path =>
      modify fun o => { o with path }

open Options in
def FileOptions.grammar : Grammar (Options FileOptions) where
  switches :=
    [helpSwitch, verboseSwitch beVerbose,
     jsonSwitch (modify fun o => { o with asJson := true }),
     uniqueWordsSwitch (modify fun o => { o with uniqueWords := true })]
  operand := some <|
    pathOperand .required "Path to the script file." fun path => modify fun o => { o with path }

open Options in
def ServeOptions.grammar : Grammar (Options ServeOptions) where
  switches :=
    [helpSwitch, verboseSwitch beVerbose,
     textSwitch "--host" "HOST" "Interface to bind." fun host => modify fun o => { o with host },
     numberSwitch "--port" "PORT" "Port to listen on." fun port => modify fun o => { o with port }]
  operand := none

/-! ## Reading -/

namespace Invocation

variable {α : Type}

def refuse (grammar : Grammar α) (program reason : String) : Exit where
  code := 2
  errors := grammar.usage program ++ program ++ ": error: " ++ reason ++ "\n"

/-- Reads arguments by a grammar; the wordings name the program. -/
def readBy (grammar : Grammar α) (program about : String) (arguments : List String)
    (settings : α) : Except Exit (List String × α) :=
  match grammar.read arguments settings with
  | .ok result => .ok result
  | .error .help => .error { code := 0, output := grammar.help program about }
  | .error (.refused reason) => .error (refuse grammar program reason)

/-- Reads the arguments of a command; gives back those that it has no place for. -/
def readCommand (opening : Opening) (name : CommandName) (arguments : List String) :
    Except Exit (List String × Invocation) := do
  let program := program ++ " " ++ name.name
  match name with
  | .scan =>
    let (left, o) ← readBy ScanOptions.grammar program "" arguments ⟨opening.verbose, {}⟩
    return (left, ⟨o.verbose, opening.logTarget, .scan o.value⟩)
  | .file =>
    let (left, o) ← readBy FileOptions.grammar program "" arguments ⟨opening.verbose, {}⟩
    return (left, ⟨o.verbose, opening.logTarget, .file o.value⟩)
  | .serve =>
    let (left, o) ← readBy ServeOptions.grammar program "" arguments ⟨opening.verbose, {}⟩
    return (left, ⟨o.verbose, opening.logTarget, .serve o.value⟩)

/-- What the arguments ask for, or how the program ends without doing anything. -/
def ofArguments (arguments : List String) : Except Exit Invocation := do
  let grammar := Opening.grammar
  let (left, opening) ← readBy grammar program about arguments {}
  match opening.command with
  | none => throw (refuse grammar program "the following arguments are required: command")
  | some (name, rest) =>
    let (more, invocation) ← readCommand opening name rest
    if left ++ more = [] then return invocation
    throw (refuse grammar program ("unrecognized arguments: " ++ " ".intercalate (left ++ more)))

end Invocation

end ScriptStats.CommandLine
