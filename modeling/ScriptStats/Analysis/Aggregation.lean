import ScriptStats.Analysis.ScriptFile
import ScriptStats.Analysis.Walk
import ScriptStats.Tree

/-!
# Aggregation

The tree of a workspace. The directories that a walk has found are worked off backwards: those
that a directory holds come after it, so their nodes are there when it needs them.
-/

namespace ScriptStats

/-- A listing together with the statistics of its scripts, in the order of the listing. -/
structure Findings where
  listing : Listing
  stats : List FileStats

/-- The nodes of the directories that wait for the directory that holds them. -/
abbrev WaitingNodes := List (Path × Node)

namespace WaitingNodes

def take? (path : Path) (waiting : WaitingNodes) : Option (Node × WaitingNodes) :=
  (waiting.lookup path).map fun node => (node, waiting.filter (·.1 ≠ path))

def put (path : Path) (node : Node) (waiting : WaitingNodes) : WaitingNodes :=
  (path, node) :: waiting.filter (·.1 ≠ path)

end WaitingNodes

namespace Node

def ofScript (entry : Entry) (stats : FileStats) : Node :=
  { name := entry.name, path := entry.path.text, kind := .file, stats := .file stats }

def ofDirectory (path : Path) (children : List Node) : Node where
  name := path.label
  path := path.text
  kind := .directory
  stats := .aggregate (AggregateStats.merge (children.map Node.stats))
  children := children

end Node

namespace Aggregation

/-- The children of a directory in the order of its entries. Nothing comes out if a node or the
statistics of a script are missing. -/
def children? : List Entry → List FileStats → WaitingNodes → Option (List Node × WaitingNodes)
  | [], _, waiting => some ([], waiting)
  | entry :: entries, stats, waiting =>
    if entry.isDirectory then do
      let (node, waiting) ← waiting.take? entry.path
      let (nodes, waiting) ← children? entries stats waiting
      return (node :: nodes, waiting)
    else
      match stats with
      | [] => none
      | first :: stats => do
        let (nodes, waiting) ← children? entries stats waiting
        return (Node.ofScript entry first :: nodes, waiting)

/-- Builds the nodes of the given directories, the last one first. -/
def assemble? : List Findings → Option WaitingNodes
  | [] => some []
  | found :: more => do
    let waiting ← assemble? more
    let (nodes, waiting) ← children? found.listing.entries found.stats waiting
    return waiting.put found.listing.directory (Node.ofDirectory found.listing.directory nodes)

/-- The node of the root; every other node waits for no one any more. -/
def root? (root : Path) (all : List Findings) : Option Node :=
  (assemble? all).bind fun waiting => waiting.lookup root

/-- Analyses the scripts of all listings, the last listing first. -/
def analyze (withCache : Bool) : List Listing → Job (List Findings)
  | [] => return []
  | listing :: more => do
    let found ← analyze withCache more
    let stats ← listing.scripts.mapM fun entry => ScriptFile.stats withCache entry.path
    return ⟨listing, stats⟩ :: found

end Aggregation

/-- The tree below `root`. -/
def buildTree (options : WalkOptions) (withCache : Bool) (root : Path) : Job Node := do
  let listings ← walk options root
  let found ← Aggregation.analyze withCache listings
  return (Aggregation.root? root found).getD (Node.ofDirectory root [])

end ScriptStats
