import SignalGraph.Catalog
import SignalGraph.Graph.Basic

/-! Which connections a graph takes, and what taking one does to its edges.

A node whose kind the catalog does not have takes part in any connection.
-/

set_option autoImplicit false

namespace SignalGraph

/-- The first rule that a refused connection breaks. -/
inductive Rejection where
  | unknownSource (id : String)
  | unknownTarget (id : String)
  | selfLoop (id : String)
  | undeclaredTargetHandle (kind : String) (handle : Option String)
  | noOutput (kind : String)
  | undeclaredSourceHandle (kind handle : String)
  deriving DecidableEq

def Rejection.message : Rejection → String
  | unknownSource id => s!"unknown source node '{id}'"
  | unknownTarget id => s!"unknown target node '{id}'"
  | selfLoop id => s!"node '{id}' cannot feed itself"
  | undeclaredTargetHandle kind (some handle) => s!"'{kind}' has no input handle '{handle}'"
  | undeclaredTargetHandle kind none => s!"'{kind}' has no anonymous input"
  | noOutput kind => s!"'{kind}' has no output"
  | undeclaredSourceHandle kind handle => s!"'{kind}' has no output handle '{handle}'"

namespace Graph

/-- Why the connection is refused, if it is. -/
def rejection? (graph : Graph) (catalog : Catalog) (connection : Connection) : Option Rejection :=
  match graph.node? connection.source, graph.node? connection.target with
  | none, _ => some (.unknownSource connection.source)
  | some _, none => some (.unknownTarget connection.target)
  | some source, some target =>
    if connection.source = connection.target then some (.selfLoop connection.source)
    else if (catalog.handles? target.kind).any (!·.declaresInput connection.targetHandle) then
      some (.undeclaredTargetHandle target.kind connection.targetHandle)
    else
      match catalog.handles? source.kind with
      | none => none
      | some handles =>
        if !handles.hasOutput then some (.noOutput source.kind)
        else connection.sourceHandle.map (.undeclaredSourceHandle source.kind)

/-- The handle keeps the edges of other sources when a new one arrives. -/
def acceptsMultiple (graph : Graph) (catalog : Catalog) (target : String)
    (handle : Option String) : Bool :=
  ((graph.node? target).bind fun node =>
    (catalog.handles? node.kind).bind (·.input? handle)).any (·.multiple)

/-- The edge that the new connection takes the place of. -/
def displaces (graph : Graph) (catalog : Catalog) (connection : Connection) (edge : Edge) : Bool :=
  if graph.acceptsMultiple catalog connection.target connection.targetHandle then
    edge.id = connection.edgeId
  else edge.sameTarget connection

/-- Add an edge for a connection that the rules allow, in place of what it displaces. -/
def connect (graph : Graph) (catalog : Catalog) (connection : Connection) :
    Except Rejection (Edge × Graph) :=
  match graph.rejection? catalog connection with
  | some rejection => .error rejection
  | none =>
    .ok (connection.edge, { graph with
      edges := graph.edges.filter (fun edge => !graph.displaces catalog connection edge) ++
        [connection.edge] })

def disconnect? (graph : Graph) (id : String) : Option Graph :=
  if graph.edges.any fun edge => edge.id = id then
    some { graph with edges := graph.edges.filter fun edge => edge.id ≠ id }
  else none

end Graph

end SignalGraph
