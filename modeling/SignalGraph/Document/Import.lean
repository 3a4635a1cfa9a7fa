import SignalGraph.Document.Text
import SignalGraph.Draft
import SignalGraph.Settings

/-! Importing a document. An import never fails: what does not fit is left out and reported.

Nodes without an id get one that no other node has. Of nodes with one id the first is kept.
Edges are wired in their order, under the same rules as edges drawn by hand.
-/

set_option autoImplicit false

namespace SignalGraph

structure RejectedEdge where
  edge : SavedEdge
  reason : Rejection
  deriving DecidableEq

/-- What an import left out or made up. -/
structure ImportReport where
  /-- Edges with an end that no kept node has. -/
  droppedEdges : List SavedEdge := []
  rejectedEdges : List RejectedEdge := []
  duplicateIds : List String := []
  generatedIds : List String := []
  /-- Kinds that the catalog does not have, sorted. -/
  unresolvedKinds : List String := []
  deriving DecidableEq

def ImportReport.isClean (report : ImportReport) : Bool :=
  report.droppedEdges.isEmpty && report.rejectedEdges.isEmpty && report.duplicateIds.isEmpty &&
  report.generatedIds.isEmpty && report.unresolvedKinds.isEmpty

/-- A saved node at its place in the list, with the id it goes by. -/
structure IdentifiedNode where
  index : Nat
  id : String
  generated : Bool
  node : SavedNode

namespace SavedGraph

/-- The ids that nodes bring along; an empty id is none. -/
def givenId? (node : SavedNode) : Option String := node.id.filter (· ≠ "")

def givenIds (nodes : List SavedNode) : List String := nodes.filterMap givenId?

/-- The names to try for a node at a place: a plain one, then numbered ones. -/
def candidateId (index attempt : Nat) : String :=
  if attempt = 0 then s!"node-imported-{index}" else s!"node-imported-{index}-{attempt}"

/-- The first candidate that is not taken. One more candidate than there are taken ids is
enough to find one. -/
def generatedId (index : Nat) (taken : List String) : String :=
  (((List.range (taken.length + 1)).map (candidateId index)).find? (· ∉ taken)).getD
    (candidateId index (taken.length + 1))

/-- Give each node its own id, or one that is not taken. -/
def identify (taken : List String) (index : Nat) : List SavedNode → List IdentifiedNode
  | [] => []
  | node :: rest =>
    match givenId? node with
    | some id => ⟨index, id, false, node⟩ :: identify taken (index + 1) rest
    | none =>
      let id := generatedId index taken
      ⟨index, id, true, node⟩ :: identify (id :: taken) (index + 1) rest

/-- Split nodes into the first of each id and the others. -/
def splitDuplicates (seen : List String) : List IdentifiedNode →
    List IdentifiedNode × List IdentifiedNode
  | [] => ([], [])
  | node :: rest =>
    if node.id ∈ seen then
      let (kept, duplicates) := splitDuplicates seen rest
      (kept, node :: duplicates)
    else
      let (kept, duplicates) := splitDuplicates (node.id :: seen) rest
      (node :: kept, duplicates)

/-- The place on a grid for a node without a position. -/
def gridPosition (settings : Settings) (index : Nat) : Position :=
  let columns := max settings.gridColumns 1
  ⟨.ofNat (index % columns) * settings.gridSpacingX + settings.gridOriginX,
    .ofNat (index / columns) * settings.gridSpacingY + settings.gridOriginY⟩

/-- The saved label, or else the label of a new node; a node of no kind is unknown. -/
def importedLabel (catalog : Catalog) (node : SavedNode) (parameters : KeyMap Json) : String :=
  if node.label ≠ "" then node.label
  else if node.kind = "" then unknownLabel
  else catalog.initialLabel node.kind parameters

/-- The node of a graph for a saved one: saved parameters lie over the defaults of the kind. -/
def importNode (catalog : Catalog) (settings : Settings) (entry : IdentifiedNode) : Node :=
  let parameters := (catalog.defaults entry.node.kind).union entry.node.parameters
  { id := entry.id
    kind := entry.node.kind
    position := entry.node.position.getD (gridPosition settings entry.index)
    label := importedLabel catalog entry.node parameters
    parameters }

/-- An empty handle is none. -/
def handle? (handle : Option String) : Option String := handle.filter (· ≠ "")

def connection (edge : SavedEdge) : Connection :=
  { source := edge.source, sourceHandle := handle? edge.sourceHandle,
    target := edge.target, targetHandle := handle? edge.targetHandle }

/-- The graph once edges are wired, the edges dropped and the edges rejected. -/
structure Wired where
  graph : Graph
  dropped : List SavedEdge
  rejected : List RejectedEdge

/-- Wire edges one after another. -/
def wire (catalog : Catalog) (graph : Graph) : List SavedEdge → Wired
  | [] => ⟨graph, [], []⟩
  | edge :: rest =>
    if (graph.node? edge.source).isNone || (graph.node? edge.target).isNone then
      let wired := wire catalog graph rest
      { wired with dropped := edge :: wired.dropped }
    else
      match graph.connect catalog (connection edge) with
      | .ok (_, graph) => wire catalog graph rest
      | .error reason =>
        let wired := wire catalog graph rest
        { wired with rejected := ⟨edge, reason⟩ :: wired.rejected }

def sortedDistinct (texts : List String) : List String :=
  texts.eraseDups.mergeSort fun first second => decide (first ≤ second)

/-- The graph of a saved one, and what had to be left out. -/
def restore (saved : SavedGraph) (catalog : Catalog) (settings : Settings) :
    Graph × ImportReport :=
  let identified := identify (givenIds saved.nodes) 0 saved.nodes
  let (kept, duplicates) := splitDuplicates [] identified
  let wired := wire catalog ⟨kept.map (importNode catalog settings), []⟩ saved.edges
  (wired.graph,
    { droppedEdges := wired.dropped
      rejectedEdges := wired.rejected
      duplicateIds := duplicates.map (·.id)
      generatedIds := (identified.filter (·.generated)).map (·.id)
      unresolvedKinds := sortedDistinct
        ((kept.map (·.node.kind)).filter fun kind => !catalog.contains kind) })

end SavedGraph

/-- The draft of a document. -/
def Document.restore (document : Document) (catalog : Catalog) (settings : Settings) :
    Draft × ImportReport :=
  let (graph, report) := document.graph.restore catalog settings
  ({ name := document.name
     description := document.description.getD ""
     graph
     config := document.config
     isPublic := document.isPublic }, report)

namespace RejectedEdge

def toTree (rejected : RejectedEdge) : Tree :=
  .object [("edge", rejected.edge.toTree), ("reason", .string rejected.reason.message)]

end RejectedEdge

namespace ImportReport

def toTree (report : ImportReport) : Tree :=
  .object [("droppedEdges", .array (report.droppedEdges.map SavedEdge.toTree)),
    ("rejectedEdges", .array (report.rejectedEdges.map RejectedEdge.toTree)),
    ("duplicateIds", .array (report.duplicateIds.map .string)),
    ("generatedIds", .array (report.generatedIds.map .string)),
    ("unresolvedKinds", .array (report.unresolvedKinds.map .string))]

end ImportReport

end SignalGraph
