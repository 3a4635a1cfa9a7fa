import SignalGraph.Document.Import
import SignalGraph.ExportName
import SignalGraph.Graph.Diagnosis
import SignalGraph.History
import SignalGraph.Session.Command

/-! An editing session over one draft: commands, undo and redo, loading and importing.

Every change of the graph is recorded in the history once. Loading starts the history over;
importing records the imported graph like an edit. Either makes the new draft the baseline
against which unsaved changes are told. The id for a new node is given from outside.
-/

set_option autoImplicit false

namespace SignalGraph

/-- A task that runs beside a session and ends with it. -/
structure BackgroundTask where
  name : String
  finished : Bool
  deriving DecidableEq

structure Session where
  catalog : Catalog
  settings : Settings
  draft : Draft
  /-- The id under which the strategy is stored, once it is. -/
  strategyId : Option Int
  history : History Graph
  baseline : Option Draft
  /-- An imported document that waits for a confirmation. -/
  parked : Option Document
  /-- How many saves were begun. -/
  saves : Nat
  /-- The number of the save that is under way. -/
  saving : Option Nat
  tasks : List BackgroundTask

inductive Outcome where
  | nodeAdded (node : Node)
  | edgeAdded (edge : Edge)
  | applied
  | unchanged
  | rejected (reason : Rejection)
  deriving BEq

inductive ImportOutcome where
  | imported (report : ImportReport)
  /-- Unsaved changes would be lost; the document is parked. -/
  | confirmationRequired
  deriving DecidableEq

namespace Session

/-- A session over a new, empty strategy. -/
def new (catalog : Catalog) (settings : Settings) : Session :=
  { catalog, settings, draft := .empty, strategyId := none
    history := .start .empty settings.historyLimit
    baseline := some .empty, parked := none, saves := 0, saving := none, tasks := [] }

def withGraph (session : Session) (graph : Graph) : Session :=
  { session with draft := { session.draft with graph } }

/-- Put an edited graph into the draft and record it. -/
def edit (session : Session) (graph : Graph) : Session :=
  { session.withGraph graph with history := session.history.push graph }

def hasUnsavedChanges (session : Session) : Bool :=
  session.draft.hasUnsavedChanges session.baseline

/-- Leaving would lose something. -/
def exitNeedsConfirmation (session : Session) : Bool := session.hasUnsavedChanges

def obstacle? (session : Session) : Option SaveObstacle := session.draft.obstacle? session.catalog

def diagnostics (session : Session) : List Diagnostic := session.draft.graph.diagnose session.catalog

def document (session : Session) : Document := session.draft.document

def exportName (session : Session) (now : Instant) : String :=
  ExportName.fileName session.draft.name now session.settings.exportNameLength

/-- The outcome of an edit that gives a graph if it finds what it is about. -/
def applyEdit (session : Session) : Option Graph → Outcome × Session
  | some graph => (.applied, session.edit graph)
  | none => (.unchanged, session)

def addNode (session : Session) (node : Node) : Outcome × Session :=
  (.nodeAdded node, session.edit (session.draft.graph.addNode node))

def undo (session : Session) : Outcome × Session :=
  if session.history.canUndo then
    let history := session.history.undo
    (.applied, { session.withGraph history.current with history })
  else (.unchanged, session)

def redo (session : Session) : Outcome × Session :=
  if session.history.canRedo then
    let history := session.history.redo
    (.applied, { session.withGraph history.current with history })
  else (.unchanged, session)

def withConfig (session : Session) (config : KeyMap Json) : Session :=
  { session with draft := { session.draft with config } }

/-- Carry out a command; a node that it adds gets the given id. -/
def dispatch (session : Session) (newId : String) : Command → Outcome × Session
  | .addNode kind position =>
    session.addNode (Graph.newNode session.catalog newId kind position)
  | .setParameters node values =>
    session.applyEdit (session.draft.graph.setParameters? session.catalog node values)
  | .moveNode node position => session.applyEdit (session.draft.graph.move? node position)
  | .renameNode node label =>
    session.applyEdit (session.draft.graph.rename? session.catalog node label)
  | .deleteNode node => session.applyEdit (session.draft.graph.delete? node)
  | .duplicateNode node =>
    match session.draft.graph.copy? node newId session.settings.duplicateOffset with
    | some copy => session.addNode copy
    | none => (.unchanged, session)
  | .connect connection =>
    match session.draft.graph.connect session.catalog connection with
    | .ok (edge, graph) => (.edgeAdded edge, session.edit graph)
    | .error reason => (.rejected reason, session)
  | .deleteEdge edge => session.applyEdit (session.draft.graph.disconnect? edge)
  | .undo => session.undo
  | .redo => session.redo
  | .setName name => (.applied, { session with draft := { session.draft with name } })
  | .setDescription description =>
    (.applied, { session with draft := { session.draft with description } })
  | .setConfig key value => (.applied, session.withConfig (session.draft.config.insert key value))
  | .removeConfig key =>
    if session.draft.config.contains key then
      (.applied, session.withConfig (session.draft.config.erase key))
    else (.unchanged, session)
  | .setPublic isPublic => (.applied, { session with draft := { session.draft with isPublic } })

/-- Replace the draft by a stored strategy, and forget what was parked or under way. -/
def load (session : Session) (strategyId : Option Int) (document : Document) :
    ImportReport × Session :=
  let (draft, report) := document.restore session.catalog session.settings
  (report, { session with
    draft, strategyId, history := session.history.reset draft.graph, baseline := some draft
    parked := none, saving := none })

/-- The draft that an import leaves: a blank name, a missing description and an empty
configuration of the document do not replace those of the draft. -/
def mergeImport (draft imported : Draft) (document : Document) : Draft :=
  { name := if isBlankText imported.name then draft.name else imported.name
    description := if document.description.isSome then imported.description else draft.description
    graph := imported.graph
    config := if imported.config.isEmpty then draft.config else imported.config
    isPublic := imported.isPublic }

def applyImport (session : Session) (document : Document) : ImportReport × Session :=
  let (imported, report) := document.restore session.catalog session.settings
  let draft := mergeImport session.draft imported document
  (report, { session with
    draft, history := session.history.push draft.graph, baseline := some draft })

/-- Import a document, or park it while there are unsaved changes. -/
def importDocument (session : Session) (document : Document) : ImportOutcome × Session :=
  if session.hasUnsavedChanges then
    (.confirmationRequired, { session with parked := some document })
  else
    let (report, session) := session.applyImport document
    (.imported report, session)

def importText (session : Session) (text : String) : Except ImportError (ImportOutcome × Session) :=
  match Document.parse text with
  | .ok document => .ok (session.importDocument document)
  | .error error => .error error

/-- Settle a parked import: apply it or drop it. -/
def confirmImport (session : Session) (confirmed : Bool) : Option ImportReport × Session :=
  match session.parked with
  | none => (none, session)
  | some document =>
    let session := { session with parked := none }
    if confirmed then
      let (report, session) := session.applyImport document
      (some report, session)
    else (none, session)

/-- Tie a task to the session; tasks that have finished are let go. -/
def attachTask (session : Session) (task : BackgroundTask) : Session :=
  { session with tasks := session.tasks.filter (!·.finished) ++ [task] }

def stopTasks (session : Session) : Session := { session with tasks := [] }

end Session

end SignalGraph
