import ScriptStats.Yaml.Tag
import ScriptStats.Yaml.Token.Lexer

/-!
# The graph of a YAML document

Tokens are put together to nodes. Since an alias stands for the very node that bears the anchor,
nodes are numbered and refer to one another by number; a node may even hold itself.
-/

namespace ScriptStats.Yaml

inductive GraphNode where
  | scalar (tag : Tag) (text : RawText)
  | sequence (tag : Tag) (items : List Nat)
  | mapping (tag : Tag) (fields : List (Nat × Nat))

structure Graph where
  nodes : Array GraphNode
  /-- A text without a document has no root. -/
  root : Option Nat

structure GraphBuilder where
  tokens : List Token
  /-- What is wrong behind the last token. -/
  fault : Option Fault
  nodes : Array GraphNode := #[]
  anchors : List (String × Nat) := []
  handles : List (String × String) := []
  /-- How many collections are open. -/
  depth : Nat := 0

abbrev Build := StateT GraphBuilder (Except Fault)

namespace Build

def fail {α : Type} : Build α := throw .malformed

def peek : Build Token := do
  let builder ← get
  match builder.tokens with
  | token :: _ => return token
  | [] => throw (builder.fault.getD .malformed)

def drop : Build Unit :=
  modify fun s => { s with tokens := s.tokens.tail }

/-! ## Nodes -/

/-- A number for a node that is still to come. No two nodes bear the same anchor. -/
def reserve (anchor : Option String) : Build Nat := do
  let builder ← get
  let id := builder.nodes.size
  let anchors ← match anchor with
    | none => pure builder.anchors
    | some name =>
      if (builder.anchors.lookup name).isSome then fail else pure ((name, id) :: builder.anchors)
  set { builder with anchors, nodes := builder.nodes.push (.scalar .null "") }
  return id

def fill (id : Nat) (node : GraphNode) : Build Unit :=
  modify fun s => { s with nodes := s.nodes.setIfInBounds id node }

def add (anchor : Option String) (node : GraphNode) : Build Nat := do
  let id ← reserve anchor
  fill id node
  return id

/-- A node where there is nothing to read. -/
def addEmpty : Build Nat := add none (.scalar .null "")

def known (name : String) : Build Nat := do
  match (← get).anchors.lookup name with
  | some id => return id
  | none => fail

/-- How many collections may stand inside one another. -/
def depthLimit : Nat := 487

/-- Reads the parts of a collection. -/
def inside {α : Type} (parts : Build α) : Build α := do
  if (← get).depth ≥ depthLimit then throw .tooDeep
  modify fun s => { s with depth := s.depth + 1 }
  let found ← parts
  modify fun s => { s with depth := s.depth - 1 }
  return found

/-! ## Properties -/

def anchor? : Build (Option String) := do
  match ← peek with
  | .anchor name => do
    drop
    return some name
  | _ => return none

def tag? : Build (Option (Option String × String)) := do
  match ← peek with
  | .tag handle suffix => do
    drop
    return some (handle, suffix)
  | _ => return none

/-- The full name of a tag. -/
def tagName : Option String × String → Build String
  | (none, suffix) => return suffix
  | (some handle, suffix) => do
    match (← get).handles.lookup handle with
    | some start => return start ++ suffix
    | none => fail

/-- An anchor and the name of a tag, which come in either order. -/
def properties : Build (Option String × Option String) := do
  let before ← anchor?
  let tag ← tag?
  let after ← if before.isNone && tag.isSome then anchor? else pure none
  return (before.or after, ← tag.mapM tagName)

/-- The name that leaves the tag open. -/
def openTag : String := "!"

def collectionTag (default : Tag) : Option String → Tag
  | none => default
  | some name => if name = openTag then default else Tag.ofName name

def scalarTag (text : RawText) (plain : Bool) : Option String → Tag
  | none => if plain then Tag.ofPlain text.chars else .string
  | some name => if name = openTag then Tag.ofPlain text.chars else Tag.ofName name

/-- An anchor or a tag may stand before nothing. -/
def emptyNode (anchor tag : Option String) : Build Nat := do
  if anchor.isNone && tag.isNone then fail
  add anchor (.scalar (scalarTag "" true tag) "")

/-! ## Collections -/

def endsEntry : Token → Bool
  | .blockEntry | .blockEnd => true
  | _ => false

def endsIndentless : Token → Bool
  | .blockEntry | .key | .value | .blockEnd => true
  | _ => false

def endsBlockPart : Token → Bool
  | .key | .value | .blockEnd => true
  | _ => false

mutual

/-- A node. Blocks are read `inBlock` only; `indentless` allows the entries of a sequence that is
indented no further than the mapping around it. -/
def node (inBlock indentless : Bool) : Nat → Build Nat
  | 0 => fail
  | fuel + 1 => do
    match ← peek with
    | .alias name => do
      drop
      known name
    | _ => do
      let (anchor, tag) ← properties
      let sequence (items : Build (List Nat)) : Build Nat := do
        let id ← reserve anchor
        fill id (.sequence (collectionTag .sequence tag) (← inside items))
        return id
      let mapping (fields : Build (List (Nat × Nat))) : Build Nat := do
        let id ← reserve anchor
        fill id (.mapping (collectionTag .mapping tag) (← inside fields))
        return id
      match ← peek with
      | .scalar text plain => do
        drop
        add anchor (.scalar (scalarTag text plain tag) text)
      | .flowSequenceStart => do
        drop
        sequence (flowItems true fuel)
      | .flowMappingStart => do
        drop
        mapping (flowFields true fuel)
      | .blockEntry =>
        if indentless then sequence (indentlessItems fuel) else emptyNode anchor tag
      | .blockSequenceStart =>
        if inBlock then do
          drop
          sequence (blockItems fuel)
        else emptyNode anchor tag
      | .blockMappingStart =>
        if inBlock then do
          drop
          mapping (blockFields fuel)
        else emptyNode anchor tag
      | _ => emptyNode anchor tag

/-- A node, or nothing before a token that ends its place. -/
def nodeUnless (ends : Token → Bool) (inBlock indentless : Bool) : Nat → Build Nat
  | 0 => fail
  | fuel + 1 => do
    if ends (← peek) then addEmpty else node inBlock indentless fuel

def blockItems : Nat → Build (List Nat)
  | 0 => fail
  | fuel + 1 => do
    match ← peek with
    | .blockEntry => do
      drop
      let item ← nodeUnless endsEntry true false fuel
      return item :: (← blockItems fuel)
    | .blockEnd => do
      drop
      return []
    | _ => fail

def indentlessItems : Nat → Build (List Nat)
  | 0 => fail
  | fuel + 1 => do
    match ← peek with
    | .blockEntry => do
      drop
      let item ← nodeUnless endsIndentless true false fuel
      return item :: (← indentlessItems fuel)
    | _ => return []

/-- The value of a field, or nothing if there is no colon. -/
def fieldValue (ends : Token → Bool) (inBlock : Bool) : Nat → Build Nat
  | 0 => fail
  | fuel + 1 => do
    match ← peek with
    | .value => do
      drop
      nodeUnless ends inBlock inBlock fuel
    | _ => addEmpty

def blockFields : Nat → Build (List (Nat × Nat))
  | 0 => fail
  | fuel + 1 => do
    match ← peek with
    | .key => do
      drop
      let name ← nodeUnless endsBlockPart true true fuel
      let value ← fieldValue endsBlockPart true fuel
      return (name, value) :: (← blockFields fuel)
    | .blockEnd => do
      drop
      return []
    | _ => fail

/-- The items of a sequence in brackets. An item with a key is a mapping of one field. -/
def flowItems (first : Bool) : Nat → Build (List Nat)
  | 0 => fail
  | fuel + 1 => do
    if (← peek) = .flowSequenceEnd then
      drop
      return []
    unless first do
      if (← peek) = .flowEntry then drop else fail
    let ends (token : Token) : Bool := token = .flowEntry || token = .flowSequenceEnd
    match ← peek with
    | .flowSequenceEnd => do
      drop
      return []
    | .key => do
      let id ← reserve none
      drop
      let field ← inside do
        let name ← nodeUnless (fun token => token = .value || ends token) false false fuel
        return (name, ← fieldValue ends false fuel)
      fill id (.mapping .mapping [field])
      return id :: (← flowItems false fuel)
    | _ => do
      let item ← node false false fuel
      return item :: (← flowItems false fuel)

def flowFields (first : Bool) : Nat → Build (List (Nat × Nat))
  | 0 => fail
  | fuel + 1 => do
    if (← peek) = .flowMappingEnd then
      drop
      return []
    unless first do
      if (← peek) = .flowEntry then drop else fail
    let ends (token : Token) : Bool := token = .flowEntry || token = .flowMappingEnd
    match ← peek with
    | .flowMappingEnd => do
      drop
      return []
    | .key => do
      drop
      let name ← nodeUnless (fun token => token = .value || ends token) false false fuel
      let value ← fieldValue ends false fuel
      return (name, value) :: (← flowFields false fuel)
    | _ => do
      let name ← node false false fuel
      let value ← addEmpty
      return (name, value) :: (← flowFields false fuel)

end

/-! ## Documents -/

def defaultHandles : List (String × String) :=
  [("!", "!"), ("!!", Tag.repository)]

/-- The directives before a document. Only version 1 is known, and nothing is said twice. -/
def directives (versioned : Bool) (handles : List (String × String)) : Nat → Build Unit
  | 0 => fail
  | fuel + 1 => do
    match ← peek with
    | .directive (.version major _) => do
      if versioned || major ≠ 1 then fail
      drop
      directives true handles fuel
    | .directive (.tag handle start) => do
      if (handles.lookup handle).isSome then fail
      drop
      directives versioned ((handle, start) :: handles) fuel
    | .directive .other => do
      drop
      directives versioned handles fuel
    | _ => modify fun s => { s with handles := handles ++ defaultHandles }

def endsContent : Token → Bool
  | .directive _ | .documentStart | .documentEnd | .streamEnd => true
  | _ => false

/-- The only document of the text. -/
def document (fuel : Nat) : Build (Option Nat) := do
  match ← peek with
  | .streamEnd => return none
  | .directive _ | .documentStart => do
    directives false [] fuel
    unless (← peek) = .documentStart do fail
    drop
    return some (← nodeUnless endsContent true false fuel)
  | _ => do
    modify fun s => { s with handles := defaultHandles }
    return some (← node true false fuel)

def documentEnds : Nat → Build Unit
  | 0 => fail
  | fuel + 1 => do
    if (← peek) = .documentEnd then
      drop
      documentEnds fuel

/-- A text holds one document at most. Another one is refused behind its directives. -/
def graph (fuel : Nat) : Build Graph := do
  let root ← document fuel
  documentEnds fuel
  unless (← peek) = .streamEnd do
    directives false [] fuel
    fail
  return ⟨(← get).nodes, root⟩

end Build

/-- The graph of a text. Every step takes a token or follows one that does. -/
def Graph.ofText (text : List Char) : Except Fault Graph :=
  let (tokens, fault) := tokens text
  (Build.graph (4 * tokens.length + 16)).run' { tokens, fault }

end ScriptStats.Yaml
