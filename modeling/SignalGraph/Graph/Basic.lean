import SignalGraph.Json.Record

/-! Strategy graphs: nodes of some kind, placed on a canvas, and edges between their handles.

Lists keep the order in which things were added. Where ids repeat, a look-up finds the first.
-/

set_option autoImplicit false

namespace SignalGraph

structure Position where
  x : Binary64
  y : Binary64
  deriving BEq

structure Node where
  id : String
  kind : String
  position : Position
  label : String
  parameters : KeyMap Json
  deriving BEq

/-- From an output of one node to an input of another. No handle is the anonymous one. -/
structure Connection where
  source : String
  sourceHandle : Option String
  target : String
  targetHandle : Option String
  deriving DecidableEq

structure Edge extends Connection where
  id : String
  deriving DecidableEq

structure Graph where
  nodes : List Node
  edges : List Edge
  deriving BEq

namespace Position

def shift (position : Position) (dx dy : Binary64) : Position :=
  ⟨position.x + dx, position.y + dy⟩

def toTree (position : Position) : Tree :=
  .object [("x", .float position.x), ("y", .float position.y)]

def ofTree? (tree : Tree) : Option Position := do
  let [x, y] ← tree.slots? [["x"], ["y"]] | none
  return ⟨← x.required Tree.number?, ← y.required Tree.number?⟩

end Position

namespace Connection

/-- An edge is named for its ends and the handle it enters, not for the handle it leaves. -/
def edgeId (connection : Connection) : String :=
  match connection.targetHandle with
  | some handle => "edge-" ++ connection.source ++ "-" ++ connection.target ++ "-" ++ handle
  | none => "edge-" ++ connection.source ++ "-" ++ connection.target

def edge (connection : Connection) : Edge := ⟨connection, connection.edgeId⟩

/-- Both connections enter the same handle. -/
def sameTarget (first second : Connection) : Bool :=
  first.target = second.target && first.targetHandle = second.targetHandle

end Connection

namespace Edge

def touches (edge : Edge) (node : String) : Bool := edge.source = node || edge.target = node

def toTree (edge : Edge) : Tree :=
  .object [("id", .string edge.id), ("source", .string edge.source),
    ("sourceHandle", Tree.nullable .string edge.sourceHandle),
    ("target", .string edge.target), ("targetHandle", Tree.nullable .string edge.targetHandle)]

def ofTree? (tree : Tree) : Option Edge := do
  let [id, source, sourceHandle, target, targetHandle] ← tree.slots?
    [["id"], ["source"], ["sourceHandle"], ["target"], ["targetHandle"]] | none
  return {
    id := ← id.required Tree.text?
    source := ← source.required Tree.text?
    sourceHandle := ← sourceHandle.nullable Tree.text?
    target := ← target.required Tree.text?
    targetHandle := ← targetHandle.nullable Tree.text?
  }

end Edge

/-- A map of free values, written as an object. -/
def KeyMap.toTree (values : KeyMap Json) : Tree := (Json.object values).tree

namespace Node

def toTree (node : Node) : Tree :=
  .object [("id", .string node.id), ("kind", .string node.kind),
    ("position", node.position.toTree), ("label", .string node.label),
    ("params", node.parameters.toTree)]

def ofTree? (tree : Tree) : Option Node := do
  let [id, kind, position, label, parameters] ← tree.slots?
    [["id"], ["kind"], ["position"], ["label"], ["params"]] | none
  return {
    id := ← id.required Tree.text?
    kind := ← kind.required Tree.text?
    position := ← position.required Position.ofTree?
    label := ← label.required Tree.text?
    parameters := ← parameters.required (Tree.keyMap? Json.ofTree?)
  }

end Node

namespace Graph

def empty : Graph := ⟨[], []⟩

def node? (graph : Graph) (id : String) : Option Node := graph.nodes.find? fun node => node.id = id

def edge? (graph : Graph) (id : String) : Option Edge := graph.edges.find? fun edge => edge.id = id

def edgesInto (graph : Graph) (target : String) (handle : Option String) : List Edge :=
  graph.edges.filter fun edge => edge.target = target && edge.targetHandle = handle

/-- The same nodes and edges in whatever order: equally many, and each one of `graph` is what
`other` has under its id. -/
def sameStructure (graph other : Graph) : Bool :=
  graph.nodes.length == other.nodes.length && graph.edges.length == other.edges.length &&
  graph.nodes.all (fun node => other.node? node.id == some node) &&
  graph.edges.all (fun edge => other.edge? edge.id == some edge)

def toTree (graph : Graph) : Tree :=
  .object [("nodes", .array (graph.nodes.map Node.toTree)),
    ("edges", .array (graph.edges.map Edge.toTree))]

def ofTree? (tree : Tree) : Option Graph := do
  let [nodes, edges] ← tree.slots? [["nodes"], ["edges"]] | none
  return ⟨← nodes.required (Tree.list? Node.ofTree?), ← edges.required (Tree.list? Edge.ofTree?)⟩

end Graph

end SignalGraph
