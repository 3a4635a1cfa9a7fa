import SignalGraph.NodeId
import SignalGraph.Proofs.Graph.Edited
import SignalGraph.Session.Saving

/-! Runs of a session: operations in any order, and the tickets handed out along the way.

`Stepped` says once what an operation can make of a session. `Reaches` is the closure of single
steps under a condition on the operations that may be carried out.
-/

set_option autoImplicit false

namespace SignalGraph

/-- What can be done to a session. A command comes with the id for a node it may add. -/
inductive Operation where
  | command (newId : String) (command : Command)
  | load (strategyId : Option Int) (document : Document)
  | importDocument (document : Document)
  | importText (text : String)
  | confirmImport (confirmed : Bool)
  | beginSave
  | completeSave (ticket : SaveTicket) (result : Except StoreError Int)
  | attachTask (task : BackgroundTask)
  | stopTasks

/-- The command puts a node into the graph. -/
def Command.addsNode : Command → Bool
  | addNode _ _ | duplicateNode _ => true
  | _ => false

/-- The id of a node that the operation adds is a made one. -/
def Operation.Brings (Made : String → Prop) : Operation → Prop
  | command newId edit => edit.addsNode = true → Made newId
  | _ => True

theorem Operation.brings_any (operation : Operation) : operation.Brings fun _ => True := by
  cases operation with
  | command => exact fun _ => trivial
  | _ => trivial

namespace Session

def step (session : Session) : Operation → Session
  | .command newId command => (session.dispatch newId command).2
  | .load strategyId document => (session.load strategyId document).2
  | .importDocument document => (session.importDocument document).2
  | .importText text =>
    match session.importText text with
    | .ok (_, next) => next
    | .error _ => session
  | .confirmImport confirmed => (session.confirmImport confirmed).2
  | .beginSave =>
    match session.beginSave with
    | .ok (_, next) => next
    | .error _ => session
  | .completeSave ticket result => (session.completeSave ticket result).2
  | .attachTask task => session.attachTask task
  | .stopTasks => session.stopTasks

/-- The ticket that an operation hands out. -/
def ticket? (session : Session) : Operation → Option SaveTicket
  | .beginSave =>
    match session.beginSave with
    | .ok (ticket, _) => some ticket
    | .error _ => none
  | _ => none

end Session

/-- A session with all tickets handed out so far, the last one first. -/
structure Editing where
  session : Session
  tickets : List SaveTicket

namespace Editing

def start (catalog : Catalog) (settings : Settings) : Editing := ⟨.new catalog settings, []⟩

def step (state : Editing) (operation : Operation) : Editing :=
  ⟨state.session.step operation, (state.session.ticket? operation).toList ++ state.tickets⟩

/-- The id of a node that the operation adds may be brought to the graph of the draft. -/
def Brings (Made : Graph → String → Prop) (state : Editing) (operation : Operation) : Prop :=
  operation.Brings (Made state.session.draft.graph)

/-- No node of the draft has the id of a node that is added. -/
def Fresh : Editing → Operation → Prop := Brings fun graph id => id ∉ graph.nodeIds

/-- The id of a node that is added is made from random bits, and no node of the draft has it. -/
def Generated : Editing → Operation → Prop :=
  Brings fun graph id => (∃ random, id = NodeId.ofRandom random) ∧ id ∉ graph.nodeIds

/-- Operations come in any order, and a save may be completed with any ticket at any time. -/
def Any (_ : Editing) (_ : Operation) : Prop := True

/-- The states that allowed operations lead to. -/
inductive Reaches (Allowed : Editing → Operation → Prop) (first : Editing) : Editing → Prop where
  | refl : Reaches Allowed first first
  | step {state : Editing} {operation : Operation} (reached : Reaches Allowed first state)
      (allowed : Allowed state operation) : Reaches Allowed first (state.step operation)

variable {Allowed Other : Editing → Operation → Prop} {first last : Editing}

/-- What every allowed step keeps, every run keeps. -/
theorem Reaches.keeps {P : Editing → Prop}
    (step : ∀ state operation, Allowed state operation → P state → P (state.step operation))
    (reached : first.Reaches Allowed last) (start : P first) : P last := by
  induction reached with
  | refl => exact start
  | step _ allowed ih => exact step _ _ allowed ih

theorem Reaches.mono
    (weaker : ∀ state operation, Allowed state operation → Other state operation)
    (reached : first.Reaches Allowed last) : first.Reaches Other last := by
  induction reached with
  | refl => exact .refl
  | step _ allowed ih => exact ih.step (weaker _ _ allowed)

theorem Reaches.brings_any (reached : first.Reaches Any last) :
    first.Reaches (Brings fun _ _ => True) last :=
  reached.mono fun _ operation _ => operation.brings_any

end Editing

namespace Session

/-- The sessions one operation away. The id of a node that an edit adds is a made one. -/
inductive Stepped (Made : String → Prop) (session : Session) : Session → Prop where
  | kept (draft : Draft) (graph : draft.graph = session.draft.graph) :
      Stepped Made session { session with draft }
  | edited {graph : Graph} (edited : Graph.Edited session.catalog session.settings.duplicateOffset
      Made session.draft.graph graph) : Stepped Made session (session.edit graph)
  | undone (possible : session.history.canUndo = true) :
      Stepped Made session
        { session.withGraph session.history.undo.current with history := session.history.undo }
  | redone (possible : session.history.canRedo = true) :
      Stepped Made session
        { session.withGraph session.history.redo.current with history := session.history.redo }
  | loaded (strategyId : Option Int) (document : Document) :
      Stepped Made session (session.load strategyId document).2
  | imported (document : Document) (parked : Option Document) :
      Stepped Made session { (session.applyImport document).2 with parked }
  | parked (document : Option Document) : Stepped Made session { session with parked := document }
  | begun (idle : session.saving = none) (ready : session.obstacle? = none) :
      Stepped Made session
        { session with saves := session.saves + 1, saving := some (session.saves + 1) }
  | written {ticket : SaveTicket} (current : session.isCurrent ticket = true) (id : Int) :
      Stepped Made session
        { session with saving := none, baseline := some ticket.snapshot, strategyId := some id }
  | failed {ticket : SaveTicket} (current : session.isCurrent ticket = true) :
      Stepped Made session { session with saving := none }
  | attended (tasks : List BackgroundTask) : Stepped Made session { session with tasks }

variable {Made : String → Prop} {session : Session}

theorem Stepped.same : session.Stepped Made session := .kept session.draft rfl

/-- What a command in particular can make of a session. -/
inductive Dispatched (Made : String → Prop) (session : Session) : Command → Session → Prop where
  | kept {command : Command} (draft : Draft) (graph : draft.graph = session.draft.graph) :
      Dispatched Made session command { session with draft }
  | edited {command : Command} {graph : Graph} (edited : Graph.Edited session.catalog
      session.settings.duplicateOffset Made session.draft.graph graph) :
      Dispatched Made session command (session.edit graph)
  | undone (possible : session.history.canUndo = true) :
      Dispatched Made session .undo
        { session.withGraph session.history.undo.current with history := session.history.undo }
  | redone (possible : session.history.canRedo = true) :
      Dispatched Made session .redo
        { session.withGraph session.history.redo.current with history := session.history.redo }

variable {next : Session} {command : Command}

theorem Dispatched.same : session.Dispatched Made command session := .kept session.draft rfl

theorem Dispatched.stepped (dispatched : session.Dispatched Made command next) :
    session.Stepped Made next := by
  cases dispatched with
  | kept draft graph => exact .kept draft graph
  | edited edited => exact .edited edited
  | undone possible => exact .undone possible
  | redone possible => exact .redone possible

theorem dispatched_applyEdit {graph? : Option Graph}
    (edited : ∀ graph, graph? = some graph → Graph.Edited session.catalog
      session.settings.duplicateOffset Made session.draft.graph graph) :
    session.Dispatched Made command (session.applyEdit graph?).2 := by
  cases graph? with
  | none => exact .same
  | some graph => exact .edited (edited graph rfl)

theorem dispatched {newId : String} (made : command.addsNode = true → Made newId) :
    session.Dispatched Made command (session.dispatch newId command).2 := by
  cases command with
  | addNode kind position => exact .edited (.added kind position (made rfl))
  | setParameters node values => exact dispatched_applyEdit fun _ found => .entered found
  | moveNode node position => exact dispatched_applyEdit fun _ found => .moved found
  | renameNode node label => exact dispatched_applyEdit fun _ found => .renamed found
  | deleteNode node => exact dispatched_applyEdit fun _ found => .deleted found
  | duplicateNode node =>
    simp only [dispatch]
    split
    case h_1 found => exact .edited (.copied (made rfl) found)
    case h_2 => exact .same
  | connect connection =>
    simp only [dispatch]
    split
    case h_1 taken => exact .edited (.connected taken)
    case h_2 => exact .same
  | deleteEdge edge => exact dispatched_applyEdit fun _ found => .disconnected found
  | undo =>
    simp only [dispatch, undo]
    split
    case isTrue possible => exact .undone possible
    case isFalse => exact .same
  | redo =>
    simp only [dispatch, redo]
    split
    case isTrue possible => exact .redone possible
    case isFalse => exact .same
  | setName name => exact .kept _ rfl
  | setDescription description => exact .kept _ rfl
  | setConfig key value => exact .kept _ rfl
  | removeConfig key =>
    simp only [dispatch]
    split
    · exact .kept _ rfl
    · exact .same
  | setPublic isPublic => exact .kept _ rfl

theorem dispatched_any (session : Session) (newId : String) (command : Command) :
    session.Dispatched (fun _ => True) command (session.dispatch newId command).2 :=
  dispatched fun _ => trivial

/-- What an import in particular can make of a session: it parks a document or settles a parked one. -/
inductive Imported (session : Session) : Session → Prop where
  | parked (document : Option Document) : Imported session { session with parked := document }
  | applied (document : Document) (parked : Option Document) :
      Imported session { (session.applyImport document).2 with parked }

theorem Imported.stepped (imported : session.Imported next) : session.Stepped Made next := by
  cases imported with
  | parked document => exact .parked document
  | applied document parked => exact .imported document parked

theorem imported_importDocument (session : Session) (document : Document) :
    session.Imported (session.importDocument document).2 := by
  unfold importDocument
  split
  · exact .parked (some document)
  · exact .applied document session.parked

theorem imported_importText (session : Session) (text : String) :
    session.Imported (session.step (.importText text)) := by
  simp only [step, importText]
  cases Document.parse text with
  | ok document => exact session.imported_importDocument document
  | error => exact .parked session.parked

theorem imported_confirmImport (session : Session) (confirmed : Bool) :
    session.Imported (session.confirmImport confirmed).2 := by
  unfold confirmImport
  split
  · exact .parked session.parked
  · rename_i document _
    cases confirmed with
    | false => exact .parked none
    | true => exact .applied document none

theorem beginSave_eq_ok_iff {ticket : SaveTicket} {next : Session} :
    session.beginSave = .ok (ticket, next) ↔
      session.saving = none ∧ session.obstacle? = none ∧
      ticket = ⟨session.saves + 1, session.strategyId, session.document, session.draft⟩ ∧
      next = { session with saves := session.saves + 1, saving := some (session.saves + 1) } := by
  unfold beginSave isSaving
  cases session.saving with
  | some number => simp
  | none => cases session.obstacle? <;> simp [eq_comm]

theorem completeSave_of_stale {ticket : SaveTicket} (stale : session.isCurrent ticket = false)
    (result : Except StoreError Int) : (session.completeSave ticket result).2 = session := by
  cases result <;> simp [completeSave, stale]

theorem completeSave_error {ticket : SaveTicket} (current : session.isCurrent ticket = true)
    (error : StoreError) :
    (session.completeSave ticket (.error error)).2 = { session with saving := none } := by
  simp [completeSave, current]

theorem completeSave_ok {ticket : SaveTicket} (current : session.isCurrent ticket = true)
    (id : Int) :
    (session.completeSave ticket (.ok id)).2 =
      { session with saving := none, baseline := some ticket.snapshot, strategyId := some id } := by
  simp [completeSave, current]

theorem stepped_completeSave (ticket : SaveTicket) (result : Except StoreError Int) :
    session.Stepped Made (session.completeSave ticket result).2 := by
  cases current : session.isCurrent ticket with
  | false =>
    rw [completeSave_of_stale current]
    exact .same
  | true =>
    cases result with
    | ok id =>
      rw [completeSave_ok current]
      exact .written current id
    | error error =>
      rw [completeSave_error current]
      exact .failed current

theorem stepped {operation : Operation} (brings : operation.Brings Made) :
    session.Stepped Made (session.step operation) := by
  cases operation with
  | command newId command => exact (dispatched brings).stepped
  | load strategyId document => exact .loaded strategyId document
  | importDocument document => exact (session.imported_importDocument document).stepped
  | importText text => exact (session.imported_importText text).stepped
  | confirmImport confirmed => exact (session.imported_confirmImport confirmed).stepped
  | beginSave =>
    simp only [step]
    split
    case h_1 begun =>
      obtain ⟨idle, ready, -, rfl⟩ := beginSave_eq_ok_iff.mp begun
      exact .begun idle ready
    case h_2 => exact .same
  | completeSave ticket result => exact stepped_completeSave ticket result
  | attachTask task => exact .attended _
  | stopTasks => exact .attended []

theorem stepped_any (session : Session) (operation : Operation) :
    session.Stepped (fun _ => True) (session.step operation) :=
  stepped operation.brings_any

end Session

end SignalGraph
