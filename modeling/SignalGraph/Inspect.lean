import SignalGraph.Session.Saving
import SignalGraph.Store.File

/-! The inspection of a strategy file: what an editor that opens it would find, as lines of
text, and on request a save into the table of strategies.
-/

set_option autoImplicit false

namespace SignalGraph.Inspect

/-- What the command line asks for. -/
structure Request where
  path : String
  save : Bool
  deriving DecidableEq

inductive UsageError where
  | missingPath
  | unexpectedArgument (argument : String)
  deriving DecidableEq

def UsageError.message : UsageError → String
  | missingPath => "Usage: inspect_strategy <strategy.json> [--save]"
  | unexpectedArgument argument => s!"Unexpected argument: {argument}"

/-- Read arguments in order: the flag, and one path. -/
def readArguments (path : Option String) (save : Bool) :
    List String → Except UsageError Request
  | [] =>
    match path with
    | some path => .ok ⟨path, save⟩
    | none => .error .missingPath
  | argument :: rest =>
    if argument = "--save" then readArguments path true rest
    else
      match path with
      | none => readArguments (some argument) save rest
      | some _ => .error (.unexpectedArgument argument)

def request (arguments : List String) : Except UsageError Request :=
  readArguments none false arguments

/-- Why the text of a file cannot be had. -/
inductive ReadFailure where
  | path (error : PathError)
  | notUtf8
  deriving DecidableEq

def ReadFailure.message : ReadFailure → String
  | path error => error.message
  | notUtf8 => "stream did not contain valid UTF-8"

/-- The text in what was read of a file. -/
def decode : Except PathError ByteArray → Except ReadFailure String
  | .error error => .error (.path error)
  | .ok bytes =>
    match String.fromUTF8? bytes with
    | some text => .ok text
    | none => .error .notUtf8

/-- Why a strategy is not in the table. -/
inductive KeepFailure where
  | notOpened (failure : OpenFailure)
  | notSaved (error : SaveError)
  deriving DecidableEq

def KeepFailure.message : KeepFailure → String
  | notOpened failure => failure.message
  | notSaved error => error.message

/-- What a run prints and the code it ends with. -/
structure Transcript where
  code : Nat
  output : List String
  errors : List String
  deriving DecidableEq

def headLines (draft : Draft) (hash : String) : List String :=
  let name := if draft.name = "" then "(unnamed)" else draft.name
  let nodes := draft.graph.nodes.length
  let edges := draft.graph.edges.length
  let keys := draft.config.size
  let visibility := if draft.isPublic then "public" else "private"
  [s!"Strategy: {name}"] ++
  (if draft.description = "" then [] else [s!"  {draft.description}"]) ++
  [s!"  {nodes} nodes, {edges} edges, {keys} config keys, {visibility}", s!"  content hash {hash}"]

def reportLines (report : ImportReport) : List String :=
  if report.isClean then ["Import: clean"]
  else
    ["Import:"] ++
    (report.droppedEdges.map fun edge => s!"  dropped edge {edge.source} -> {edge.target}") ++
    (report.rejectedEdges.map fun rejected =>
      s!"  rejected edge {rejected.edge.source} -> {rejected.edge.target}: " ++
        rejected.reason.message) ++
    (report.duplicateIds.map fun id => s!"  duplicate node id {id}") ++
    (if report.generatedIds.isEmpty then []
      else [s!"  generated ids for {report.generatedIds.length} nodes"]) ++
    (report.unresolvedKinds.map fun kind => s!"  unknown node kind {kind}")

def saveCheckLine : Option SaveObstacle → String
  | none => "Save check: ok"
  | some obstacle => "Save check: " ++ obstacle.message

def diagnosticLine : Diagnostic → String
  | .cycle nodes => "  cycle through " ++ String.intercalate " -> " nodes
  | .unreachable node => s!"  {node} does not feed the signal output"
  | .unwiredInput node (some handle) => s!"  {node} has nothing wired into '{handle}'"
  | .unwiredInput node none => s!"  {node} has nothing wired into its input"

def diagnosticLines (diagnostics : List Diagnostic) : List String :=
  if diagnostics.isEmpty then ["Diagnostics: none"]
  else "Diagnostics:" :: diagnostics.map diagnosticLine

/-- Everything there is to say about an imported strategy. -/
def lines (session : Session) (report : ImportReport) : List String :=
  headLines session.draft session.document.contentHash ++ reportLines report ++
  [saveCheckLine session.obstacle?] ++ diagnosticLines session.diagnostics

variable {m : Type → Type} [Monad m] [Files m]

/-- Save into the table in a folder. A table that was opened is kept, also if the session is not
ready to be saved. -/
def keep (session : Session) (folder : String) (now : Instant) : m (Except KeepFailure Int) := do
  match ← FileTable.openIn folder now with
  | .error failure => return .error (.notOpened failure)
  | .ok table =>
    let (answer, table) : Except SaveError Int × FileTable := match session.beginSave with
      | .error error => (.error error, table)
      | .ok (ticket, session) =>
        let (result, table) := table.create ticket.document
        ((session.completeSave ticket result).1, table)
    match answer, ← table.keepIn folder with
    | .error error, _ => return .error (.notSaved error)
    | .ok _, .error cause => return .error (.notSaved (.store (.database cause.message)))
    | .ok id, .ok () => return .ok id

/-- A run that could read its arguments. The table lies in the data folder. -/
def inspect (request : Request) (dataFolder : String) (now : Instant) : m Transcript := do
  match decode (← Files.read request.path) with
  | .error failure => return ⟨1, [], [s!"Failed to read {request.path}: " ++ failure.message]⟩
  | .ok text =>
    match (Session.new .builtIn .standard).importText text with
    | .error error => return ⟨1, [], [error.message]⟩
    | .ok (.confirmationRequired, _) =>
      return ⟨1, [], ["Fresh session unexpectedly reported unsaved changes"]⟩
    | .ok (.imported report, session) =>
      let output := lines session report
      if request.save then
        match ← keep session dataFolder now with
        | .ok id =>
          let place := FileTable.pathIn dataFolder
          return ⟨0, output ++ [s!"Saved as strategy {id} in {place}"], []⟩
        | .error failure => return ⟨1, output, [failure.message]⟩
      else return ⟨0, output, []⟩

/-- A run from its arguments on. -/
def run (arguments : List String) (dataFolder : String) (now : Instant) : m Transcript := do
  match request arguments with
  | .error error => return ⟨2, [], [error.message]⟩
  | .ok request => inspect request dataFolder now

end SignalGraph.Inspect
