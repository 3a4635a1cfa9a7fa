import SignalGraph.Proofs.Session.Saving

/-! Operations that fail, or that come to nothing.

A command comes to nothing if what it is about is not there, and a connection is refused by a rule.
A text may not be a document, and a save may not begin. None of these leaves a trace, and the parked
document is all that declining an import takes away.
-/

set_option autoImplicit false

namespace SignalGraph

/-! ## What is not there -/

namespace Graph

variable {graph : Graph} {id : String}

theorem change?_eq_none_iff {change : Node → Node} :
    graph.change? id change = none ↔ id ∉ graph.nodeIds := by
  simp [Option.eq_none_iff_forall_ne_some, change?_eq_some_iff]

theorem delete?_eq_none_iff : graph.delete? id = none ↔ id ∉ graph.nodeIds := by
  simp [Option.eq_none_iff_forall_ne_some, delete?_eq_some_iff]

theorem copy?_eq_none_iff (graph : Graph) (newId : String) (offset : Binary64) :
    graph.copy? id newId offset = none ↔ id ∉ graph.nodeIds := by
  rw [copy?, Option.map_eq_none_iff, node?_eq_none_iff]

theorem disconnect?_eq_none_iff :
    graph.disconnect? id = none ↔ id ∉ graph.edges.map (·.id) := by
  simp [disconnect?]

end Graph

namespace Session

variable {session : Session} {command : Command} {newId : String}

/-- What the command is about is not there. -/
def Moot (session : Session) : Command → Prop
  | .setParameters node _ | .moveNode node _ | .renameNode node _ | .deleteNode node
  | .duplicateNode node => node ∉ session.draft.graph.nodeIds
  | .deleteEdge edge => edge ∉ session.draft.graph.edges.map (·.id)
  | .undo => session.history.canUndo = false
  | .redo => session.history.canRedo = false
  | .removeConfig key => session.draft.config.contains key = false
  | .addNode _ _ | .connect _ | .setName _ | .setDescription _ | .setConfig _ _
  | .setPublic _ => False

/-! ## Commands -/

theorem applyEdit_eq_unchanged_iff {graph? : Option Graph} :
    (session.applyEdit graph?).1 = .unchanged ↔ graph? = none := by
  cases graph? <;> simp [applyEdit]

/-- A command answers that nothing changed exactly if what it is about is not there. -/
theorem dispatch_eq_unchanged_iff (session : Session) (newId : String) (command : Command) :
    (session.dispatch newId command).1 = .unchanged ↔ session.Moot command := by
  cases command with
  | setParameters | moveNode | renameNode =>
    exact applyEdit_eq_unchanged_iff.trans Graph.change?_eq_none_iff
  | deleteNode => exact applyEdit_eq_unchanged_iff.trans Graph.delete?_eq_none_iff
  | duplicateNode node =>
    rw [Moot, ← session.draft.graph.copy?_eq_none_iff newId session.settings.duplicateOffset]
    simp only [dispatch]
    split
    case h_1 found => simp [found, addNode]
    case h_2 missing => simp [missing]
  | deleteEdge => exact applyEdit_eq_unchanged_iff.trans Graph.disconnect?_eq_none_iff
  | undo =>
    simp only [dispatch, undo, Moot]
    cases session.history.canUndo <;> simp
  | redo =>
    simp only [dispatch, redo, Moot]
    cases session.history.canRedo <;> simp
  | removeConfig key =>
    simp only [dispatch, Moot]
    cases session.draft.config.contains key <;> simp
  | connect connection =>
    simp only [dispatch, Moot, iff_false]
    split <;> simp
  | addNode | setName | setDescription | setConfig | setPublic => simp [dispatch, addNode, Moot]

/-- A command is refused exactly if it draws a connection that breaks a rule. -/
theorem dispatch_eq_rejected_iff {reason : Rejection} :
    (session.dispatch newId command).1 = .rejected reason ↔
      ∃ connection, command = .connect connection ∧
        session.draft.graph.rejection? session.catalog connection = some reason := by
  cases command with
  | connect connection =>
    simp only [dispatch, Graph.connect]
    cases refused : session.draft.graph.rejection? session.catalog connection <;> simp [refused]
  | setParameters | moveNode | renameNode | deleteNode | deleteEdge =>
    simp only [dispatch, applyEdit]
    split <;> simp
  | duplicateNode =>
    simp only [dispatch, addNode]
    split <;> simp
  | undo | redo | removeConfig =>
    simp only [dispatch, undo, redo]
    split <;> simp
  | addNode | setName | setDescription | setConfig | setPublic => simp [dispatch, addNode]

theorem dispatch_of_moot (moot : session.Moot command) (newId : String) :
    session.dispatch newId command = (.unchanged, session) := by
  cases command with
  | setParameters | moveNode | renameNode =>
    exact congrArg session.applyEdit (Graph.change?_eq_none_iff.mpr moot)
  | deleteNode => exact congrArg session.applyEdit (Graph.delete?_eq_none_iff.mpr moot)
  | deleteEdge => exact congrArg session.applyEdit (Graph.disconnect?_eq_none_iff.mpr moot)
  | duplicateNode =>
    have missing := (session.draft.graph.copy?_eq_none_iff newId
      session.settings.duplicateOffset).mpr moot
    simp only [dispatch, missing]
  | undo | redo =>
    simp only [Moot] at moot
    simp [dispatch, undo, redo, moot]
  | removeConfig =>
    simp only [Moot] at moot
    simp [dispatch, moot]
  | addNode | connect | setName | setDescription | setConfig | setPublic => exact moot.elim

theorem dispatch_of_rejection {connection : Connection} {reason : Rejection}
    (refused : session.draft.graph.rejection? session.catalog connection = some reason)
    (newId : String) :
    session.dispatch newId (.connect connection) = (.rejected reason, session) := by
  simp only [dispatch, Graph.connect, refused]

/-! ## Texts and saves -/

theorem importText_eq_error_iff {text : String} {error : ImportError} :
    session.importText text = .error error ↔ Document.parse text = .error error := by
  unfold importText
  cases Document.parse text <;> simp

/-- A save does not begin while another is under way, or while the draft lacks something. -/
theorem beginSave_eq_error_iff {error : SaveError} :
    session.beginSave = .error error ↔
      (session.isSaving = true ∧ error = .inProgress) ∨
      (session.isSaving = false ∧ ∃ obstacle, session.obstacle? = some obstacle ∧
        error = .obstacle obstacle) := by
  unfold beginSave
  cases session.isSaving with
  | true => simp [eq_comm]
  | false => cases session.obstacle? <;> simp [eq_comm]

theorem confirmImport_false (session : Session) :
    session.confirmImport false = (none, { session with parked := none }) := by
  unfold confirmImport
  cases waiting : session.parked with
  | none =>
    have same : { session with parked := none } = session := by rw [← waiting]
    rw [same]
  | some document => rfl

end Session

/-! ## Operations -/

namespace Editing

variable {state : Editing} {operation : Operation}

/-- The answer to the operation is that it failed, or that it came to nothing. -/
inductive Refuses (state : Editing) : Operation → Prop where
  | unchanged {newId : String} {command : Command}
      (answer : (state.session.dispatch newId command).1 = .unchanged) :
      Refuses state (.command newId command)
  | rejected {newId : String} {command : Command} {reason : Rejection}
      (answer : (state.session.dispatch newId command).1 = .rejected reason) :
      Refuses state (.command newId command)
  | unread {text : String} {error : ImportError}
      (answer : state.session.importText text = .error error) : Refuses state (.importText text)
  | unsaved {error : SaveError} (answer : state.session.beginSave = .error error) :
      Refuses state .beginSave

/-- Something stands in the way of the operation. -/
def Hinders (state : Editing) : Operation → Prop
  | .command _ command => state.session.Moot command ∨
    ∃ connection reason, command = .connect connection ∧
      state.session.draft.graph.rejection? state.session.catalog connection = some reason
  | .importText text => ∃ error, Document.parse text = .error error
  | .beginSave =>
    state.session.isSaving = true ∨ ∃ obstacle, state.session.obstacle? = some obstacle
  | _ => False

theorem refuses_iff_hinders : state.Refuses operation ↔ state.Hinders operation := by
  constructor
  · rintro (answer | answer | answer | answer)
    · exact .inl ((state.session.dispatch_eq_unchanged_iff _ _).mp answer)
    · obtain ⟨connection, drawn, refused⟩ := Session.dispatch_eq_rejected_iff.mp answer
      exact .inr ⟨connection, _, drawn, refused⟩
    · exact ⟨_, Session.importText_eq_error_iff.mp answer⟩
    · rcases Session.beginSave_eq_error_iff.mp answer with ⟨saving, -⟩ | ⟨-, obstacle, lacks, -⟩
      · exact .inl saving
      · exact .inr ⟨obstacle, lacks⟩
  · intro hinders
    cases operation with
    | command newId command =>
      rcases hinders with moot | ⟨connection, reason, drawn, refused⟩
      · exact .unchanged ((state.session.dispatch_eq_unchanged_iff _ _).mpr moot)
      · exact .rejected (Session.dispatch_eq_rejected_iff.mpr ⟨connection, drawn, refused⟩)
    | importText text =>
      obtain ⟨error, unread⟩ := hinders
      exact .unread (Session.importText_eq_error_iff.mpr unread)
    | beginSave =>
      cases saving : state.session.isSaving with
      | true => exact .unsaved (Session.beginSave_eq_error_iff.mpr (.inl ⟨saving, rfl⟩))
      | false =>
        rcases hinders with underWay | ⟨obstacle, lacks⟩
        · rw [saving] at underWay
          exact Bool.noConfusion underWay
        · exact .unsaved (Session.beginSave_eq_error_iff.mpr (.inr ⟨saving, obstacle, lacks, rfl⟩))
    | load | importDocument | confirmImport | completeSave | attachTask | stopTasks =>
      exact hinders.elim

/-- No ticket is handed out either. -/
theorem step_command_of_kept {newId : String} {command : Command}
    (kept : (state.session.dispatch newId command).2 = state.session) :
    state.step (.command newId command) = state := by
  simp [step, Session.step, Session.ticket?, kept]

theorem step_of_refuses (refuses : state.Refuses operation) : state.step operation = state := by
  cases refuses with
  | unchanged answer =>
    have moot := (state.session.dispatch_eq_unchanged_iff _ _).mp answer
    exact step_command_of_kept (congrArg Prod.snd (Session.dispatch_of_moot moot _))
  | rejected answer =>
    obtain ⟨connection, rfl, refused⟩ := Session.dispatch_eq_rejected_iff.mp answer
    exact step_command_of_kept (congrArg Prod.snd (Session.dispatch_of_rejection refused _))
  | unread answer => simp [step, Session.step, Session.ticket?, answer]
  | unsaved answer =>
    obtain ⟨same, unissued⟩ := Session.step_beginSave_error answer
    simp [step, same, unissued]

/-- An operation is refused exactly when something stands in its way, and then nothing of the
session has changed. Declining an import drops the parked document and changes nothing else. -/
theorem refuses_keeps (state : Editing) :
    (∀ operation, state.Refuses operation → state.step operation = state) ∧
    (∀ operation, state.Refuses operation ↔ state.Hinders operation) ∧
    state.session.confirmImport false = (none, { state.session with parked := none }) :=
  ⟨fun _ => step_of_refuses, fun _ => refuses_iff_hinders, state.session.confirmImport_false⟩

/-- While a save is under way and a document is parked, another save, a loop, a missing edge and
half a text are refused. -/
theorem refuses_keeps_saving :
    let document : Document :=
      { name := "Parked", description := none, config := .empty, isPublic := false
        graph := { nodes := [], edges := [] } }
    let state := ((((start .builtIn .standard).step (.command "" (.setName "Breakout"))).step
      (.command "node-1" (.addNode "signal_output" ⟨0.0, 0.0⟩))).step .beginSave).step
      (.importDocument document)
    state.session.saving = some 1 ∧ state.session.parked = some document ∧
      ∀ operation ∈ [.beginSave, .command "" (.connect ⟨"node-1", none, "node-1", none⟩),
        .command "" (.deleteEdge "edge-node-1"), .importText "\x7b"],
        state.Refuses operation ∧ state.step operation = state := by
  intro document state
  have saving : state.session.saving = some 1 := by decide +kernel
  have parked : state.session.parked = some document := by rfl
  have hindered : ∀ operation ∈ [.beginSave,
      .command "" (.connect ⟨"node-1", none, "node-1", none⟩),
      .command "" (.deleteEdge "edge-node-1"), .importText "\x7b"], state.Hinders operation := by
    refine List.forall_mem_cons.mpr ⟨.inl (by decide +kernel), ?_⟩
    refine List.forall_mem_cons.mpr ⟨.inr ⟨_, .selfLoop "node-1", rfl, by decide +kernel⟩, ?_⟩
    refine List.forall_mem_cons.mpr ⟨.inl (show ¬_ by decide +kernel), ?_⟩
    exact List.forall_mem_singleton.mpr ⟨.invalidJson, by rfl⟩
  obtain ⟨kept, hinders, -⟩ := refuses_keeps state
  refine ⟨saving, parked, fun operation listed => ?_⟩
  have refused := (hinders operation).mpr (hindered operation listed)
  exact ⟨refused, kept operation refused⟩

end Editing

end SignalGraph
