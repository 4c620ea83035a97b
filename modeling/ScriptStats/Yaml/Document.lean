import ScriptStats.Yaml.Graph
import ScriptStats.Yaml.Scalar

/-!
# YAML documents

The contents of the nodes of a graph. Collections hold their parts by number, so that a document
that holds itself is nothing special. The nodes are worked off breadth first: the parts of a
collection come before the parts of those parts. Merge keys bring in the fields of other mappings,
which come first so that the own fields win.
-/

namespace ScriptStats.Yaml

inductive Content where
  | scalar (value : Scalar)
  | list (items : List Nat)
  /-- A list of pairs, of an ordered mapping among others. -/
  | pairs (items : List (Nat × Nat))
  | set (items : List Nat)
  | mapping (fields : List (Nat × Nat))
  deriving DecidableEq, Repr

/-- Collections cannot be keys. -/
def Content.isCollection : Content → Bool
  | scalar _ => false
  | _ => true

structure Document where
  contents : Array (Option Content)
  root : Nat
  deriving Repr

namespace Document

/-- What is not there is null. -/
def content (document : Document) (id : Nat) : Content :=
  (document.contents[id]?.join).getD (.scalar .null)

/-- The value of a field. Of several fields of the same name the last one counts. -/
def field? (document : Document) (fields : List (Nat × Nat)) (name : String) : Option Content :=
  (fields.reverse.find? fun (key, _) => document.content key = .scalar (.text (RawText.ofString name))).map
    fun (_, value) => document.content value

end Document

/-! ## Contents of nodes -/

structure DocumentBuilder where
  nodes : Array GraphNode
  contents : Array (Option Content)
  /-- The collections whose parts are still to come. -/
  waiting : List Nat := []

abbrev Fill := StateT DocumentBuilder (Except Fault)

namespace GraphNode

def tag : GraphNode → Tag
  | scalar tag _ => tag
  | sequence tag _ => tag
  | mapping tag _ => tag

def setTag (node : GraphNode) (tag : Tag) : GraphNode :=
  match node with
  | scalar _ text => scalar tag text
  | sequence _ items => sequence tag items
  | mapping _ fields => mapping tag fields

end GraphNode

namespace Fill

def fail {α : Type} : Fill α := throw .malformed

def node (id : Nat) : Fill GraphNode := do
  match (← get).nodes[id]? with
  | some node => return node
  | none => fail

def tagOf (id : Nat) : Fill Tag := return (← node id).tag

def setNode (id : Nat) (node : GraphNode) : Fill Unit :=
  modify fun s => { s with nodes := s.nodes.setIfInBounds id node }

def setContent (id : Nat) (content : Content) : Fill Unit :=
  modify fun s => { s with contents := s.contents.setIfInBounds id (some content) }

/-- How often a scalar may be looked for inside of another mapping. -/
def searchLimit : Nat := 980

/-- The text of a scalar; for a mapping, that of the value which stands for it. -/
def scalarText : Nat → Nat → Fill RawText
  | 0, _ => throw .tooDeep
  | fuel + 1, id => do
    match ← node id with
    | .scalar _ text => return text
    | .sequence .. => fail
    | .mapping _ fields =>
      match ← fields.findM? fun (key, _) => return (← tagOf key) = .value with
      | some (_, value) => scalarText fuel value
      | none => fail

/-- The value of a node that is to be a scalar. -/
def scalarOf (id : Nat) (tag : Tag) : Fill Scalar := do
  let text ← scalarText searchLimit id
  match tag, ← node id with
  | .timestamp, .mapping .. => throw .timestampOfCollection
  | tag, _ =>
    match Scalar.ofText tag text with
    | .ok value => return value
    | .error fault => throw fault

def await (id : Nat) (content : Content) : Fill Unit := do
  setContent id content
  modify fun s => { s with waiting := s.waiting ++ [id] }

/-- Finds the content of a node, once. A collection is empty at first. -/
def visit (id : Nat) : Fill Unit := do
  let builder ← get
  if (builder.contents[id]?.join).isSome then return
  match ← tagOf id with
  | .sequence => await id (.list [])
  | .orderedMap => await id (.pairs [])
  | .pairs => await id (.pairs [])
  | .set => await id (.set [])
  | .mapping => await id (.mapping [])
  | tag =>
    -- A tag without a meaning of its own is refused whatever it stands at.
    if tag ∈ [.merge, .value, .unknown] then fail
    setContent id (.scalar (← scalarOf id tag))

/-! ## Merging -/

def fieldsOf (id : Nat) : Fill (List (Nat × Nat)) := do
  match ← node id with
  | .mapping _ fields => return fields
  | _ => fail

def setFields (id : Nat) (fields : List (Nat × Nat)) : Fill Unit := do
  setNode id (.mapping (← tagOf id) fields)

mutual

/-- Writes the fields that merge keys bring in into the mapping. A mapping may be flattened anew
while that is going on, if it is merged into itself. -/
def flatten : Nat → Nat → Fill Unit
  | 0, _ => fail
  | fuel + 1, id => do
    match ← mergedFrom fuel id 0 (← fieldsOf id).length with
    | [] => return
    | merged => setFields id (merged ++ (← fieldsOf id))
termination_by fuel => (fuel, 0)

/-- The fields that the merge keys from `index` on bring in. A merge key is taken out before its
value is looked at; `steps` are enough for the fields up to the next merge key. -/
def mergedFrom (fuel : Nat) (id index steps : Nat) : Fill (List (Nat × Nat)) := do
  match (← fieldsOf id)[index]? with
  | none => return []
  | some (key, value) =>
    match fuel, steps, ← tagOf key with
    | fuel + 1, _, .merge => do
      setFields id ((← fieldsOf id).eraseIdx index)
      let found ← match ← node value with
        | .mapping .. => do
          flatten fuel value
          fieldsOf value
        | .sequence _ items => do
          let parts ← flattenAll fuel items
          pure parts.reverse.flatten
        | .scalar .. => fail
      return found ++ (← mergedFrom fuel id index (← fieldsOf id).length)
    | fuel, steps + 1, tag => do
      if tag = .value then setNode key ((← node key).setTag .string)
      mergedFrom fuel id (index + 1) steps
    | _, _, _ => fail
termination_by (fuel, steps + 1)

/-- The fields of several mappings, each of them flattened before the next one. -/
def flattenAll (fuel : Nat) : List Nat → Fill (List (List (Nat × Nat)))
  | [] => return []
  | item :: items => do
    let _ ← fieldsOf item
    flatten fuel item
    let fields ← fieldsOf item
    return fields :: (← flattenAll fuel items)
termination_by items => (fuel, items.length + 1)

end

/-- How many fields all mappings have. Every merge key is one of them, and flattening takes two
steps for each. -/
def fieldCount (nodes : Array GraphNode) : Nat :=
  nodes.foldl (fun n node => n + match node with
    | .mapping _ fields => fields.length
    | _ => 0) 0

/-! ## Collections -/

def mappingFields (id : Nat) : Fill (List (Nat × Nat)) := do
  let _ ← fieldsOf id
  flatten (2 * fieldCount (← get).nodes + 1) id
  let fields ← fieldsOf id
  for (key, value) in fields do
    visit key
    if ((← get).contents[key]?.join.map Content.isCollection).getD true then fail
    visit value
  return fields

def sequenceItems (id : Nat) : Fill (List Nat) := do
  match ← node id with
  | .sequence _ items => return items
  | _ => fail

/-- The only field of a mapping of one. -/
def pair (id : Nat) : Fill (Nat × Nat) := do
  match ← fieldsOf id with
  | [(key, value)] => do
    visit key
    visit value
    return (key, value)
  | _ => fail

/-- Finds the parts of a collection. -/
def complete (id : Nat) : Fill Unit := do
  match ← tagOf id with
  | .sequence => do
    let items ← sequenceItems id
    items.forM visit
    setContent id (.list items)
  | .mapping => do setContent id (.mapping (← mappingFields id))
  | .set => do setContent id (.set ((← mappingFields id).map Prod.fst))
  | _ => do
    let items ← sequenceItems id
    setContent id (.pairs (← items.mapM pair))

/-- Every node waits at most once, so there are enough steps for all. -/
def completeAll : Nat → Fill Unit
  | 0 => fail
  | fuel + 1 => do
    let builder ← get
    match builder.waiting with
    | [] => return
    | id :: waiting => do
      set { builder with waiting }
      complete id
      completeAll fuel

def document (root : Nat) : Fill Document := do
  visit root
  completeAll ((← get).nodes.size + 1)
  return ⟨(← get).contents, root⟩

end Fill

/-- The document of a graph; a graph without a root is null. -/
def Document.ofGraph (graph : Graph) : Except Fault Document :=
  match graph.root with
  | none => .ok ⟨#[], 0⟩
  | some root =>
    (Fill.document root).run'
      { nodes := graph.nodes, contents := Array.replicate graph.nodes.size none }

def Document.ofText (text : List Char) : Except Fault Document := do
  Document.ofGraph (← Graph.ofText text)

end ScriptStats.Yaml
