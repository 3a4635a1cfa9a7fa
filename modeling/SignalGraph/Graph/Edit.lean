import SignalGraph.Graph.Connect
import SignalGraph.Title

/-! Edits of the nodes of a graph. An edit of a node that is not there gives no graph. -/

set_option autoImplicit false

namespace SignalGraph

/-- The label of a node of no kind. -/
def unknownLabel : String := "Unknown"

namespace Catalog

/-- The label of a kind where nothing better is known. -/
def kindLabel (catalog : Catalog) (kind : String) : String :=
  if kind = "" then unknownLabel else catalog.displayName kind

/-- The title that a script node declares in its code parameter. -/
def declaredTitle? (kind : String) (parameters : KeyMap Json) : Option String := do
  guard (kind = BuiltIn.pineScript)
  let code ← parameters.get? "code"
  Title.ofCode? (← code.tree.text?)

/-- The label of a new node. -/
def initialLabel (catalog : Catalog) (kind : String) (parameters : KeyMap Json) : String :=
  (declaredTitle? kind parameters).getD (catalog.displayName kind)

/-- The value that a parameter of the kind gets when this one is entered. -/
def entered (catalog : Catalog) (kind id : String) (value : Json) : Json :=
  match catalog.parameter? kind id with
  | some parameter => parameter.coerce value
  | none => value

end Catalog

namespace Node

/-- Lay entered values over the parameters. -/
def enter (node : Node) (catalog : Catalog) (values : KeyMap Json) : KeyMap Json :=
  node.parameters.insertAll
    (values.entries.map fun (id, value) => (id, catalog.entered node.kind id value))

/-- The code of a script node; other values than a text count as no code. -/
def code (parameters : KeyMap Json) : String :=
  ((parameters.get? "code").bind fun value => value.tree.text?).getD ""

/-- The label once parameters were entered: new code of a script gives its title, blank code
the name of the kind, and code without a title leaves the label alone. -/
def labelAfter (node : Node) (catalog : Catalog) (values parameters : KeyMap Json) : String :=
  if node.kind = BuiltIn.pineScript ∧ values.contains "code" then
    match Title.ofCode? (code parameters) with
    | some title => title
    | none =>
      if isBlankText (code parameters) then catalog.displayName node.kind else node.label
  else node.label

def withParameters (node : Node) (catalog : Catalog) (values : KeyMap Json) : Node :=
  let parameters := node.enter catalog values
  { node with parameters, label := node.labelAfter catalog values parameters }

/-- A blank label stands for the label of the kind. -/
def withLabel (node : Node) (catalog : Catalog) (label : String) : Node :=
  { node with label := if isBlankText label then catalog.kindLabel node.kind else label }

end Node

namespace Graph

/-- Change the first node of an id. -/
def changeFirst (id : String) (change : Node → Node) : List Node → List Node
  | [] => []
  | node :: rest => if node.id = id then change node :: rest else node :: changeFirst id change rest

def change? (graph : Graph) (id : String) (change : Node → Node) : Option Graph :=
  if (graph.node? id).isSome then some { graph with nodes := changeFirst id change graph.nodes }
  else none

/-- A new node of a kind, with the defaults of the kind. -/
def newNode (catalog : Catalog) (id kind : String) (position : Position) : Node :=
  let parameters := catalog.defaults kind
  { id, kind, position, label := catalog.initialLabel kind parameters, parameters }

def addNode (graph : Graph) (node : Node) : Graph := { graph with nodes := graph.nodes ++ [node] }

def setParameters? (graph : Graph) (catalog : Catalog) (id : String) (values : KeyMap Json) :
    Option Graph :=
  graph.change? id fun node => node.withParameters catalog values

def move? (graph : Graph) (id : String) (position : Position) : Option Graph :=
  graph.change? id fun node => { node with position }

def rename? (graph : Graph) (catalog : Catalog) (id label : String) : Option Graph :=
  graph.change? id fun node => node.withLabel catalog label

/-- Remove the nodes of an id and the edges that touch them. -/
def delete? (graph : Graph) (id : String) : Option Graph :=
  if (graph.node? id).isSome then
    some ⟨graph.nodes.filter fun node => node.id ≠ id, graph.edges.filter fun edge => !edge.touches id⟩
  else none

/-- A copy of a node under a new id, some way to the right and down; edges are not copied. -/
def copy? (graph : Graph) (id newId : String) (offset : Binary64) : Option Node :=
  (graph.node? id).map fun node =>
    { node with id := newId, position := node.position.shift offset offset }

def hasOutput (graph : Graph) (catalog : Catalog) : Bool :=
  graph.nodes.any fun node => catalog.isTerminal node.kind

end Graph

end SignalGraph
