import SignalGraph.Graph.Basic

/-! Strategy documents: the form in which a strategy is stored, downloaded and edited by hand.

Nearly every member may be missing, and `null` reads like a missing one. Two members have an
older name as well. Only the graph and its list of nodes must be there.
-/

set_option autoImplicit false

namespace SignalGraph

structure SavedNode where
  id : Option String
  kind : String
  position : Option Position
  parameters : KeyMap Json
  label : String
  deriving BEq

structure SavedEdge where
  id : Option String
  source : String
  target : String
  sourceHandle : Option String
  targetHandle : Option String
  deriving DecidableEq

structure SavedGraph where
  nodes : List SavedNode
  edges : List SavedEdge
  deriving BEq

structure Document where
  name : String
  /-- None when the document says nothing about a description. -/
  description : Option String
  graph : SavedGraph
  config : KeyMap Json
  isPublic : Bool
  deriving BEq

namespace SavedNode

def toTree (node : SavedNode) : Tree :=
  .object (Tree.optionalMember "id" .string node.id ++
    [("kind", .string node.kind), ("position", Tree.nullable Position.toTree node.position),
      ("data", .object [("params", node.parameters.toTree), ("label", .string node.label)])])

/-- The parameters and the label that a node keeps under `data`. -/
def dataOfTree? (tree : Tree) : Option (KeyMap Json × String) := do
  let [parameters, label] ← tree.slots? [["params"], ["label"]] | none
  return (← parameters.nullAsDefault (Tree.keyMap? Json.ofTree?) .empty,
    ← label.nullAsDefault Tree.text? "")

def ofTree? (tree : Tree) : Option SavedNode := do
  let [id, kind, position, data] ← tree.slots? [["id"], ["kind", "type"], ["position"], ["data"]]
    | none
  let (parameters, label) ← data.nullAsDefault dataOfTree? (.empty, "")
  return {
    id := ← id.optional Tree.text?
    kind := ← kind.nullAsDefault Tree.text? ""
    position := ← position.optional Position.ofTree?
    parameters
    label
  }

end SavedNode

namespace SavedEdge

def toTree (edge : SavedEdge) : Tree :=
  .object (Tree.optionalMember "id" .string edge.id ++
    [("source", .string edge.source), ("target", .string edge.target),
      ("sourceHandle", Tree.nullable .string edge.sourceHandle),
      ("targetHandle", Tree.nullable .string edge.targetHandle)])

def ofTree? (tree : Tree) : Option SavedEdge := do
  let [id, source, target, sourceHandle, targetHandle] ← tree.slots?
    [["id"], ["source"], ["target"], ["sourceHandle"], ["targetHandle"]] | none
  return {
    id := ← id.optional Tree.text?
    source := ← source.nullAsDefault Tree.text? ""
    target := ← target.nullAsDefault Tree.text? ""
    sourceHandle := ← sourceHandle.optional Tree.text?
    targetHandle := ← targetHandle.optional Tree.text?
  }

end SavedEdge

namespace SavedGraph

def toTree (graph : SavedGraph) : Tree :=
  .object [("nodes", .array (graph.nodes.map SavedNode.toTree)),
    ("edges", .array (graph.edges.map SavedEdge.toTree))]

def ofTree? (tree : Tree) : Option SavedGraph := do
  let [nodes, edges] ← tree.slots? [["nodes"], ["edges"]] | none
  return {
    nodes := ← nodes.required (Tree.list? SavedNode.ofTree?)
    edges := ← edges.nullAsDefault (Tree.list? SavedEdge.ofTree?) []
  }

end SavedGraph

namespace Document

def toTree (document : Document) : Tree :=
  .object ([("name", .string document.name)] ++
    Tree.optionalMember "description" .string document.description ++
    [("graph", document.graph.toTree), ("config", document.config.toTree),
      ("is_public", .bool document.isPublic)])

def ofTree? (tree : Tree) : Option Document := do
  let [name, description, graph, config, isPublic] ← tree.slots?
    [["name"], ["description"], ["graph", "strategy_graph"], ["config"], ["is_public"]] | none
  return {
    name := ← name.nullAsDefault Tree.text? ""
    description := ← description.optional Tree.text?
    graph := ← graph.required SavedGraph.ofTree?
    config := ← config.nullAsDefault (Tree.keyMap? Json.ofTree?) .empty
    isPublic := ← isPublic.nullAsDefault Tree.bool? false
  }

end Document

end SignalGraph
