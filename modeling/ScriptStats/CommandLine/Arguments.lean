import ScriptStats.Text.Digit
import ScriptStats.Text.Lines
import ScriptStats.Text.Quoted

/-!
# Arguments

A grammar says which switches and which operand a command takes. Reading arguments by a grammar
gathers what they set and gives back those that it has no place for. A switch may be shortened as
long as it is the only one that begins so, and short switches without a value may be written
together. After two dashes nothing is a switch any more.
-/

namespace ScriptStats.CommandLine

/-- What a switch does to the settings of type `α`. -/
inductive Effect (α : Type) where
  | help
  | flag (set : α → α)
  /-- Takes a value, and refuses it with a reason. Two dashes that are written together with the
  switch are dropped, and no value is left. -/
  | value (set : Option String → Except String (α → α))

structure Switch (α : Type) where
  names : List String
  effect : Effect α
  help : String
  /-- What the value is called in the help, if the switch takes one. -/
  valueName : String := ""

inductive OperandKind where
  | required
  | optional
  /-- Takes all that follows, whatever it looks like. -/
  | command
  deriving DecidableEq

structure Operand (α : Type) where
  name : String
  kind : OperandKind
  set : List String → Except String (α → α)
  help : String := ""
  /-- The commands to choose from, each with its help. -/
  choices : List (String × String) := []

structure Grammar (α : Type) where
  switches : List (Switch α)
  operand : Option (Operand α)

/-- Why reading ends before the arguments do. -/
inductive Stop where
  | help
  | refused (reason : String)
  deriving DecidableEq, Repr

namespace Stop

/-- A reason that names the argument it is about. -/
def about (argument reason : String) : Stop :=
  refused ("argument " ++ argument ++ ": " ++ reason)

end Stop

variable {α : Type}

namespace Switch

def label (switch : Switch α) : String :=
  "/".intercalate switch.names

def takesValue (switch : Switch α) : Bool :=
  match switch.effect with
  | .value _ => true
  | _ => false

end Switch

/-! ## Kinds of arguments -/

/-- A switch that an argument names, with the text that is written together with it, behind an
equals sign or without. An unknown switch is left to others. -/
inductive Naming (α : Type) where
  | unknown
  | known (switch : Switch α) (name : String) (attached : Option (List Char))

inductive Mark (α : Type) where
  | dashes
  | plain
  | switch (naming : Naming α)

structure Item (α : Type) where
  text : String
  mark : Mark α

namespace Item

def isSwitch (item : Item α) : Bool :=
  match item.mark with
  | .switch _ => true
  | _ => false

def isPlain (item : Item α) : Bool :=
  match item.mark with
  | .plain => true
  | _ => false

def isDashes (item : Item α) : Bool :=
  match item.mark with
  | .dashes => true
  | _ => false

end Item

/-- A minus and a number, which is no switch. A line feed may follow. -/
def isNegativeNumber (text : List Char) : Bool :=
  match Text.dropLineFeed text with
  | '-' :: rest =>
    let isDigit (c : Char) : Bool := (Text.digitValue? c).isSome
    match rest.dropWhile isDigit with
    | [] => rest ≠ []
    | '.' :: fraction => fraction ≠ [] && fraction.all isDigit
    | _ => false
  | _ => false

/-- The part before the first equals sign, and the part behind it if there is one. -/
def splitEquals (text : List Char) : List Char × Option (List Char) :=
  match text.dropWhile (· ≠ '=') with
  | _ :: value => (text.takeWhile (· ≠ '='), some value)
  | [] => (text, none)

namespace Grammar

variable (grammar : Grammar α)

/-- All names with their switches, in order. -/
def names : List (String × Switch α) :=
  grammar.switches.flatMap fun switch => switch.names.map (·, switch)

def named? (name : List Char) : Option (String × Switch α) :=
  grammar.names.find? fun (n, _) => n.toList = name

/-- The names that an argument may be short for, each with the value that is then attached. -/
def abbreviated (text : List Char) : List (String × Naming α) :=
  match text with
  | '-' :: '-' :: _ =>
    let (start, attached) := splitEquals text
    grammar.names.filterMap fun (name, switch) =>
      if start.isPrefixOf name.toList then some (name, .known switch name attached) else none
  | _ =>
    grammar.names.filterMap fun (name, switch) =>
      if name.toList = text.take 2 then some (name, .known switch name (some (text.drop 2)))
      else if text.isPrefixOf name.toList then some (name, .known switch name none)
      else none

/-- What kind of argument a text is, before two dashes. -/
def markOf (text : List Char) : Except Stop (Mark α) :=
  if text.head? ≠ some '-' then .ok .plain
  else match grammar.named? text with
    | some (name, switch) => .ok (.switch (.known switch name none))
    | none =>
      if text.length = 1 then .ok .plain
      else
        let (start, attached) := splitEquals text
        match if attached.isSome then grammar.named? start else none with
        | some (name, switch) => .ok (.switch (.known switch name attached))
        | none =>
          match grammar.abbreviated text with
          | [(_, naming)] => .ok (.switch naming)
          | [] =>
            if isNegativeNumber text || text.contains ' ' then .ok .plain
            else .ok (.switch .unknown)
          | several =>
            .error (.refused ("ambiguous option: " ++ String.ofList text ++ " could match "
              ++ ", ".intercalate (several.map Prod.fst)))

def itemsOf : List String → Except Stop (List (Item α))
  | [] => .ok []
  | text :: rest =>
    if text = "--" then .ok (⟨text, .dashes⟩ :: rest.map (⟨·, .plain⟩))
    else do
      let mark ← grammar.markOf text.toList
      return ⟨text, mark⟩ :: (← itemsOf rest)

/-! ## Switches -/

/-- A switch as it is used, with its value if it takes one and the value has not been dropped. -/
structure Use (α : Type) where
  switch : Switch α
  value : Option String := none

/-- The value that a text attached to a switch gives it. -/
def attachedValue (text : List Char) : Option String :=
  if text = ['-', '-'] then none else some (String.ofList text)

def ignored (switch : Switch α) (attached : List Char) : Stop :=
  .about switch.label ("ignored explicit argument " ++ Text.quoted (String.ofList attached))

/-- A switch with nothing attached. `next` is the argument behind it if that may be its value; the
flag tells whether it is taken. -/
def useBare (next : Option String) (switch : Switch α) : Except Stop (List (Use α) × Bool) :=
  if switch.takesValue then
    match next with
    | some value => .ok ([⟨switch, some value⟩], true)
    | none => .error (.about switch.label "expected one argument")
  else .ok ([⟨switch, none⟩], false)

def isShort (name : String) : Bool :=
  name.toList.take 2 ≠ ['-', '-']

/-- A switch with something attached: its value, or the names of more short switches. -/
def useAttached (next : Option String) (switch : Switch α) (name : String) :
    List Char → Except Stop (List (Use α) × Bool)
  | [] =>
    if switch.takesValue then .ok ([⟨switch, some ""⟩], false) else .error (ignored switch [])
  | c :: rest =>
    if switch.takesValue then .ok ([⟨switch, attachedValue (c :: rest)⟩], false)
    else
      match if isShort name then grammar.named? ['-', c] else none with
      | none => .error (ignored switch (c :: rest))
      | some (name, following) => do
        let (more, taken) ←
          if rest = [] then useBare next following else useAttached next following name rest
        return (⟨switch, none⟩ :: more, taken)

def apply : List (Use α) → α → Except Stop α
  | [], settings => .ok settings
  | ⟨switch, value⟩ :: more, settings =>
    match switch.effect with
    | .help => .error .help
    | .flag set => apply more (set settings)
    | .value set =>
      match set value with
      | .ok change => apply more (change settings)
      | .error reason => .error (.about switch.label reason)

/-! ## The operand -/

/-- How many items the operand takes, if it can be there. -/
def operandLength (kind : OperandKind) (items : List (Item α)) : Option Nat :=
  let before := (items.takeWhile Item.isDashes).length
  match items.drop before with
  | item :: rest =>
    if item.isPlain then
      match kind with
      | .command => some items.length
      | _ => some (before + 1 + (rest.takeWhile Item.isDashes).length)
    else if kind = .optional then some before else none
  | [] => if kind = .optional then some before else none

/-- The first pair of dashes is not part of an operand, but it is part of a command. -/
def operandTexts (kind : OperandKind) (items : List (Item α)) : List String :=
  let texts := items.map Item.text
  if kind = .command then texts else texts.erase "--"

/-- Takes the operand from the front if it is there. -/
def takeOperand (operand : Option (Operand α)) (items : List (Item α)) (settings : α) :
    Except Stop (Option (Operand α) × List (Item α) × α) :=
  match operand with
  | none => .ok (none, items, settings)
  | some o =>
    match operandLength o.kind items with
    | none => .ok (some o, items, settings)
    | some n =>
      match o.set (operandTexts o.kind (items.take n)) with
      | .ok change => .ok (none, items.drop n, change settings)
      | .error reason => .error (.about o.name reason)

/-! ## All arguments -/

def plainTexts (items : List (Item α)) : List String :=
  items.map Item.text

/-- Takes the switch at the front. -/
def takeSwitch (naming : Naming α) (text : String) (rest : List (Item α)) (settings : α) :
    Except Stop (List String × List (Item α) × α) :=
  match naming with
  | .unknown => .ok ([text], rest, settings)
  | .known switch name attached => do
    let next := (rest.head?.filter Item.isPlain).map Item.text
    let (uses, taken) ← match attached with
      | none => useBare next switch
      | some attached => grammar.useAttached next switch name attached
    let settings ← apply uses settings
    return ([], if taken then rest.drop 1 else rest, settings)

/-- Reads the items. What is left over comes out in order, and with it the operand if it is still
due. Each round takes an item, so `fuel` lasts. -/
def readItems (operand : Option (Operand α)) (items : List (Item α)) (settings : α) :
    Nat → Except Stop (Option (Operand α) × List String × α)
  | 0 => .ok (operand, plainTexts items, settings)
  | fuel + 1 =>
    let before := items.takeWhile (!·.isSwitch)
    match items.dropWhile (!·.isSwitch) with
    | [] => do
      let (operand, rest, settings) ← takeOperand operand items settings
      return (operand, plainTexts rest, settings)
    | item :: rest => do
      let (operand', items', settings') ←
        if before = [] then .ok (operand, items, settings) else takeOperand operand items settings
      if items'.length < items.length then readItems operand' items' settings' fuel
      else
        match item.mark with
        | .switch naming => do
          let (left, rest, settings) ← grammar.takeSwitch naming item.text rest settings'
          let (operand, more, settings) ← readItems operand' rest settings fuel
          return (operand, plainTexts before ++ left ++ more, settings)
        | _ => .ok (operand', plainTexts items, settings')

/-- Reads arguments by a grammar. A required operand has to be there. -/
def read (arguments : List String) (settings : α) : Except Stop (List String × α) := do
  let items ← grammar.itemsOf arguments
  let (operand, left, settings) ←
    grammar.readItems grammar.operand items settings (items.length + 1)
  match operand with
  | some o =>
    if o.kind = .optional then return (left, settings)
    throw (.refused ("the following arguments are required: " ++ o.name))
  | none => return (left, settings)

end Grammar

end ScriptStats.CommandLine
