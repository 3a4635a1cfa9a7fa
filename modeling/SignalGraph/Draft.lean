import SignalGraph.Graph.Edit
import SignalGraph.Document.Basic

/-! The strategy that is being edited: whether it may be saved, whether it has changed, and
the document it is saved as.
-/

set_option autoImplicit false

namespace SignalGraph

structure Draft where
  name : String := ""
  description : String := ""
  graph : Graph := .empty
  config : KeyMap Json := .empty
  isPublic : Bool := false
  deriving BEq

/-- What a draft still lacks. -/
inductive SaveObstacle where
  | missingName
  | missingOutput
  deriving DecidableEq

def SaveObstacle.message : SaveObstacle → String
  | missingName => "Strategy name is required"
  | missingOutput => "Add a Signal Output node before saving"

namespace Draft

def empty : Draft := {}

/-- The first thing that keeps a draft from being saved. -/
def obstacle? (draft : Draft) (catalog : Catalog) : Option SaveObstacle :=
  if isBlankText draft.name then some .missingName
  else if !draft.graph.hasOutput catalog then some .missingOutput
  else none

/-- The draft differs from a baseline; the order of nodes and edges is no difference. -/
def differsFrom (draft baseline : Draft) : Bool :=
  baseline.name != draft.name || baseline.description != draft.description ||
  baseline.config != draft.config || baseline.isPublic != draft.isPublic ||
  !baseline.graph.sameStructure draft.graph

/-- Without a baseline there is nothing to lose. -/
def hasUnsavedChanges (draft : Draft) (baseline : Option Draft) : Bool :=
  baseline.any draft.differsFrom

end Draft

def Node.save (node : Node) : SavedNode :=
  { id := some node.id, kind := node.kind, position := some node.position,
    parameters := node.parameters, label := node.label }

/-- Edges are saved without their ids, which follow from their ends. -/
def Edge.save (edge : Edge) : SavedEdge :=
  { id := none, source := edge.source, target := edge.target,
    sourceHandle := edge.sourceHandle, targetHandle := edge.targetHandle }

def Graph.save (graph : Graph) : SavedGraph :=
  ⟨graph.nodes.map Node.save, graph.edges.map Edge.save⟩

/-- The document of a draft. -/
def Draft.document (draft : Draft) : Document :=
  { name := draft.name, description := some draft.description, graph := draft.graph.save,
    config := draft.config, isPublic := draft.isPublic }

end SignalGraph
