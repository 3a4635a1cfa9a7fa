import SignalGraph.Graph.Edit
import SignalGraph.Graph.Walk

/-! What is odd about a graph: cycles, nodes that feed no output, inputs with nothing wired
into them. None of it keeps a strategy from being saved.
-/

set_option autoImplicit false

namespace SignalGraph

inductive Diagnostic where
  | cycle (nodes : List String)
  | unreachable (node : String)
  | unwiredInput (node : String) (handle : Option String)
  deriving DecidableEq

namespace Graph

/-- The ids of the nodes; an id that several nodes share stands where the last of them does. -/
def ids (graph : Graph) : List String :=
  (graph.nodes.map (·.id)).reverse.eraseDups.reverse

/-- The nodes that the edges of a node lead to, by the newest edge first. -/
def successors (graph : Graph) (ids : List String) (id : String) : List String :=
  ((graph.edges.filter fun edge => edge.source = id).reverse.map (·.target)).filter (· ∈ ids)

end Graph

/-- The ids of a graph, where their edges lead, and what walks of one step or more reach. -/
structure Links where
  ids : List String
  successors : Walk.Table String String
  descendants : Walk.Table String String

def Graph.links (graph : Graph) : Links :=
  let ids := graph.ids
  let successors := Walk.Table.of ids (graph.successors ids)
  ⟨ids, successors, Walk.Table.of ids (Walk.descendants successors.row ids)⟩

namespace Links

/-- The second id is the first or is reached from it. -/
def leadsTo (links : Links) (first second : String) : Bool :=
  second = first || second ∈ links.descendants.row first

/-- Each of the two leads to the other. -/
def together (links : Links) (first second : String) : Bool :=
  links.leadsTo first second && links.leadsTo second first

/-- The strongly connected components, in the order in which a search completes them. -/
def components (links : Links) : List (List String) :=
  (Walk.roots links.together (Walk.finishOrder links.successors.row links.ids)).map fun root =>
    links.ids.filter (links.together root)

/-- A walk comes back to where it started: there are several ids, or one with an edge to itself. -/
def isCyclic (links : Links) (component : List String) : Bool :=
  1 < component.length || component.head?.any fun id => id ∈ links.successors.row id

/-- The components with a cycle, each sorted. Nothing is looked for where the ids can be sorted by
where they lead. -/
def cycles (links : Links) : List (List String) :=
  if (Walk.sort? links.successors.row links.ids).isSome then []
  else (links.components.filter links.isCyclic).map fun component =>
    component.mergeSort fun first second => decide (first ≤ second)

end Links

namespace Graph

/-- The ids under which some node ends the strategy. -/
def terminalIds (graph : Graph) (catalog : Catalog) : List String :=
  (graph.nodes.filter fun node => catalog.isTerminal node.kind).map (·.id)

/-- The nodes, terminal ones apart, from which no terminal node is reached. -/
def unreachable (graph : Graph) (catalog : Catalog) (links : Links) : List String :=
  let outputs := graph.terminalIds catalog
  (graph.nodes.filter fun node =>
    !catalog.isTerminal node.kind && !outputs.any (links.leadsTo node.id)).map (·.id)

/-- The declared inputs of a node that no edge enters. -/
def unwiredInputs (graph : Graph) (catalog : Catalog) (node : Node) : List InputHandle :=
  ((catalog.handles? node.kind).map (·.inputs) |>.getD []).filter fun input =>
    (graph.edgesInto node.id input.id).isEmpty

def diagnose (graph : Graph) (catalog : Catalog) : List Diagnostic :=
  let links := graph.links
  links.cycles.map .cycle ++
  (graph.unreachable catalog links).map .unreachable ++
  graph.nodes.flatMap fun node =>
    (graph.unwiredInputs catalog node).map fun input => .unwiredInput node.id input.id

end Graph

end SignalGraph
