import SignalGraph.Proofs.Graph.Equality
import SignalGraph.Proofs.Session.Graphs

/-! Undo and redo over whole sessions.

The draft and the current snapshot of the history hold equal graphs in every state of a run. So
operations that change the graph record each graph once, and undoing them brings back what was there
before, in reverse and with nothing else of the session touched.
-/

set_option autoImplicit false

namespace SignalGraph

namespace Session

variable {session next middle : Session} {operation : Operation} {command : Command}

/-! ## The draft and its history -/

/-- The graph of the draft is the current snapshot, or equal to it: one that is equal is not recorded
again, so the two may differ in the sign of a zero. -/
def Tracks (session : Session) : Prop :=
  session.history.current = session.draft.graph ∨
    (session.history.current == session.draft.graph) = true

theorem Tracks.beq (tracks : session.Tracks) (numeric : session.draft.graph.IsNumeric) :
    (session.history.current == session.draft.graph) = true :=
  tracks.elim (fun same => same ▸ numeric.beq_self) id

theorem Tracks.beq_of_current {graph : Graph} (tracks : session.Tracks)
    (same : (session.history.current == graph) = true) : (session.draft.graph == graph) = true :=
  tracks.elim (fun current => current ▸ same) fun current => BEq.trans (BEq.symm current) same

/-- How the history goes with the session. -/
structure Tracked (session : Session) : Prop where
  tracks : session.Tracks
  fits : session.history.Fits
  limit : session.history.limit = max session.settings.historyLimit 1

namespace Tracked

theorem new (catalog : Catalog) (settings : Settings) : (new catalog settings).Tracked :=
  ⟨.inl rfl, Nat.le_max_right _ _, rfl⟩

theorem unmoved (tracked : session.Tracked) (graph : next.draft.graph = session.draft.graph)
    (history : next.history = session.history) (settings : next.settings = session.settings) :
    next.Tracked where
  tracks := by
    rw [Tracks, graph, history]
    exact tracked.tracks
  fits := history ▸ tracked.fits
  limit := by rw [history, settings, tracked.limit]

theorem pushed (tracked : session.Tracked)
    (history : next.history = session.history.push next.draft.graph)
    (settings : next.settings = session.settings) : next.Tracked where
  tracks := by
    rw [Tracks, history]
    exact session.history.current_push _
  fits := history ▸ tracked.fits.push _
  limit := by rw [history, settings, History.push_limit, tracked.limit]

theorem recalled (tracked : session.Tracked) (graph : next.draft.graph = next.history.current)
    (snapshots : next.history.snapshots = session.history.snapshots)
    (limit : next.history.limit = session.history.limit)
    (settings : next.settings = session.settings) : next.Tracked where
  tracks := .inl graph.symm
  fits := by
    rw [History.Fits, snapshots, limit]
    exact tracked.fits
  limit := by rw [limit, settings, tracked.limit]

theorem stepped {Made : String → Prop} (tracked : session.Tracked)
    (stepped : session.Stepped Made next) : next.Tracked := by
  cases stepped with
  | kept draft graph => exact tracked.unmoved graph rfl rfl
  | edited => exact tracked.pushed rfl rfl
  | undone => exact tracked.recalled rfl (History.undo_snapshots _) rfl rfl
  | redone => exact tracked.recalled rfl (History.redo_snapshots _) (History.redo_limit _) rfl
  | loaded => exact ⟨.inl rfl, session.history.limit_pos, tracked.limit⟩
  | imported => exact tracked.pushed rfl rfl
  | _ => exact tracked.unmoved rfl rfl rfl

theorem step (tracked : session.Tracked) (operation : Operation) :
    (session.step operation).Tracked :=
  tracked.stepped (session.stepped_any operation)

end Tracked

theorem settings_step (session : Session) (operation : Operation) :
    (session.step operation).settings = session.settings :=
  (session.stepped_any operation).surroundings.2

end Session

theorem Editing.Reaches.tracked {Allowed : Editing → Operation → Prop} {catalog : Catalog}
    {settings : Settings} {state : Editing}
    (reached : (start catalog settings).Reaches Allowed state) :
    state.session.Tracked ∧ state.session.settings = settings := by
  refine reached.keeps (P := fun state => state.session.Tracked ∧ state.session.settings = settings)
    ?_ ⟨.new catalog settings, rfl⟩
  rintro state operation - ⟨tracked, same⟩
  exact ⟨tracked.step operation, (state.session.settings_step operation).trans same⟩

/-! ## Operations that record -/

/-- An edit of any kind, or an import. -/
def Operation.Edits : Operation → Prop
  | command _ edit => edit ≠ .undo ∧ edit ≠ .redo
  | importDocument _ | importText _ | confirmImport _ => True
  | _ => False

namespace Session

variable {session next middle : Session} {operation : Operation} {command : Command}

/-- The graph stays the same and nothing is recorded, or what it becomes is pushed. -/
def Pushes (session next : Session) : Prop :=
  next.draft.graph = session.draft.graph ∧ next.history = session.history ∨
    next.history = session.history.push next.draft.graph

theorem Dispatched.pushes {Made : String → Prop}
    (dispatched : session.Dispatched Made command next)
    (edits : command ≠ .undo ∧ command ≠ .redo) : session.Pushes next := by
  cases dispatched with
  | kept draft graph => exact .inl ⟨graph, rfl⟩
  | edited => exact .inr rfl
  | undone => exact absurd rfl edits.1
  | redone => exact absurd rfl edits.2

theorem Imported.pushes (imported : session.Imported next) : session.Pushes next := by
  cases imported with
  | parked => exact .inl ⟨rfl, rfl⟩
  | applied => exact .inr rfl

theorem pushes_step (edits : operation.Edits) : session.Pushes (session.step operation) := by
  cases operation with
  | command newId command => exact (session.dispatched_any newId command).pushes edits
  | importDocument document => exact (session.imported_importDocument document).pushes
  | importText text => exact (session.imported_importText text).pushes
  | confirmImport confirmed => exact (session.imported_confirmImport confirmed).pushes
  | _ => exact edits.elim

/-- A graph that differs from the one before is always recorded. -/
theorem Pushes.append (pushes : session.Pushes next) (tracks : session.Tracks)
    (numeric : session.draft.graph.IsNumeric)
    (differs : (session.draft.graph == next.draft.graph) = false) :
    next.history = session.history.append next.draft.graph := by
  rcases pushes with ⟨graph, -⟩ | pushed
  · rw [graph, numeric.beq_self] at differs
    cases differs
  · -- It differs from the current snapshot as well, which is equal to the graph before.
    have current : (session.history.current == next.draft.graph) = false := by
      rw [BEq.congr_left (tracks.beq numeric), differs]
    rw [pushed, History.push_of_differs current]

/-- Edits and imports, each of which changes the graph, with the graphs that they lead to in turn. -/
inductive Works (first : Session) : List Graph → Session → Prop where
  | refl : Works first [] first
  | step {graphs : List Graph} {session : Session} {operation : Operation}
      (works : Works first graphs session) (edits : operation.Edits)
      (differs : (session.draft.graph == (session.step operation).draft.graph) = false) :
      Works first (graphs ++ [(session.step operation).draft.graph]) (session.step operation)

namespace Works

variable {first last : Session} {graphs : List Graph}

theorem tracked (works : first.Works graphs last) (tracked : first.Tracked) :
    last.Tracked ∧ last.settings = first.settings := by
  induction works with
  | refl => exact ⟨tracked, rfl⟩
  | step _ _ _ ih => exact ⟨ih.1.step _, (settings_step _ _).trans ih.2⟩

theorem limit (works : first.Works graphs last) (tracked : first.Tracked) :
    last.history.limit = first.history.limit := by
  obtain ⟨trackedLast, settings⟩ := works.tracked tracked
  rw [trackedLast.limit, settings, tracked.limit]

theorem graph_mem (works : first.Works graphs last) :
    last.draft.graph ∈ first.draft.graph :: graphs := by
  cases works with
  | refl => exact List.mem_cons_self
  | step => exact List.mem_cons_of_mem _ (List.mem_append_right _ (List.mem_singleton_self _))

theorem history_step {operation : Operation} (works : first.Works graphs last)
    (tracked : first.Tracked) (numeric : ∀ graph ∈ first.draft.graph :: graphs, graph.IsNumeric)
    (edits : operation.Edits)
    (differs : (last.draft.graph == (last.step operation).draft.graph) = false) :
    (last.step operation).history = last.history.append (last.step operation).draft.graph :=
  (pushes_step edits).append (works.tracked tracked).1.tracks (numeric _ works.graph_mem) differs

/-- The line ends with the graphs of the run, one snapshot for each, if they all fit. -/
theorem suffix_line (works : first.Works graphs last) (tracked : first.Tracked)
    (numeric : ∀ graph ∈ first.draft.graph :: graphs, graph.IsNumeric)
    (room : graphs.length < first.history.limit) :
    first.history.current :: graphs <:+ last.history.line := by
  induction works with
  | refl => exact first.history.current_suffix_line
  | @step graphs _ _ works edits differs ih =>
    rw [List.length_append, List.length_singleton] at room
    have before : ∀ graph ∈ first.draft.graph :: graphs, graph.IsNumeric := fun graph member =>
      numeric graph (List.mem_append_left _ member)
    -- The limit cuts nothing of the run off, since there is room for its first snapshot as well.
    have suffix := ih before (Nat.lt_of_succ_lt room)
    rw [works.history_step tracked before edits differs, ← List.cons_append]
    refine History.suffix_line_append suffix ?_ _
    rw [works.limit tracked]
    exact room

/-- Recording leaves nothing to redo; without it what could be redone still can. -/
theorem canRedo_iff (works : first.Works graphs last) (tracked : first.Tracked)
    (numeric : ∀ graph ∈ first.draft.graph :: graphs, graph.IsNumeric) :
    last.history.canRedo = false ↔ graphs ≠ [] ∨ first.history.canRedo = false := by
  cases works with
  | refl => simp
  | @step graphs _ _ works edits differs =>
    have before : ∀ graph ∈ first.draft.graph :: graphs, graph.IsNumeric := fun graph member =>
      numeric graph (List.mem_append_left _ member)
    rw [works.history_step tracked before edits differs]
    simp [History.canRedo_append]

end Works

/-! ## Undoing and redoing -/

/-- Only the place in the history has changed, and with it the graph of the draft. -/
structure Travelled (session next : Session) : Prop where
  snapshots : next.history.snapshots = session.history.snapshots
  rest : next = { session with
    draft := { session.draft with graph := next.draft.graph }, history := next.history }

theorem Travelled.same : session.Travelled session := ⟨rfl, rfl⟩

theorem Travelled.trans (travelled : session.Travelled middle) (further : middle.Travelled next) :
    session.Travelled next where
  snapshots := further.snapshots.trans travelled.snapshots
  rest := by
    refine further.rest.trans ?_
    rw [travelled.rest]

theorem travelled_undo (session : Session) : session.Travelled session.undo.2 := by
  unfold undo
  split
  · exact ⟨History.undo_snapshots _, rfl⟩
  · exact .same

theorem travelled_redo (session : Session) : session.Travelled session.redo.2 := by
  unfold redo
  split
  · exact ⟨History.redo_snapshots _, rfl⟩
  · exact .same

theorem undo_history (session : Session) : session.undo.2.history = session.history.undo := by
  unfold undo
  split
  · rfl
  · rename_i oldest
    exact (History.undo_of_oldest (Bool.eq_false_iff.mpr oldest)).symm

theorem redo_history (session : Session) : session.redo.2.history = session.history.redo := by
  unfold redo
  split
  · rfl
  · rename_i newest
    exact (History.redo_of_newest (Bool.eq_false_iff.mpr newest)).symm

theorem redo_eq_unchanged_iff :
    session.redo = (.unchanged, session) ↔ session.history.canRedo = false := by
  unfold redo
  cases session.history.canRedo <;> simp

/-- Undo so many times, then redo so many times. -/
def revisit (session : Session) (undone redone : Nat) : Session :=
  (fun session => session.redo.2)^[redone] ((fun session => session.undo.2)^[undone] session)

/-- What every undo and every redo keeps, all of them keep. -/
theorem revisit_keeps {P : Session → Prop} (undo : ∀ session, P session → P session.undo.2)
    (redo : ∀ session, P session → P session.redo.2) (start : P session) (undone redone : Nat) :
    P (session.revisit undone redone) :=
  Function.Iterate.rec P (Function.Iterate.rec P start undo undone) redo redone

theorem travelled_revisit (session : Session) (undone redone : Nat) :
    session.Travelled (session.revisit undone redone) :=
  revisit_keeps (fun middle travelled => travelled.trans middle.travelled_undo)
    (fun middle travelled => travelled.trans middle.travelled_redo) .same undone redone

theorem Tracked.revisit (tracked : session.Tracked) (undone redone : Nat) :
    (session.revisit undone redone).Tracked := by
  refine revisit_keeps (fun middle tracked => ?_) (fun middle tracked => ?_) tracked undone redone
  · exact tracked.step (.command "" .undo)
  · exact tracked.step (.command "" .redo)

theorem revisit_history (session : Session) (undone redone : Nat) :
    (session.revisit undone redone).history =
      History.redo^[redone] (History.undo^[undone] session.history) := by
  have undoing : Function.Semiconj history (fun session => session.undo.2) History.undo :=
    undo_history
  have redoing : Function.Semiconj history (fun session => session.redo.2) History.redo :=
    redo_history
  rw [revisit, redoing.iterate_right redone, undoing.iterate_right undone]

namespace Works

variable {first last : Session} {graphs : List Graph} (works : first.Works graphs last)
  (tracked : first.Tracked) (numeric : ∀ graph ∈ first.draft.graph :: graphs, graph.IsNumeric)
  (room : graphs.length < first.history.limit) {undone redone : Nat}

include works tracked numeric room

/-- As many operations can be undone as were carried out. -/
theorem length_le_cursor : graphs.length ≤ last.history.cursor := by
  have length := (works.suffix_line tracked numeric room).length_le
  rw [History.length_line, List.length_cons] at length
  exact Nat.le_of_succ_le_succ length

/-- Redoing takes back undoing. -/
theorem revisit_history (back : undone ≤ graphs.length) (forth : redone ≤ undone) :
    (last.revisit undone redone).history = History.undo^[undone - redone] last.history := by
  have reachable := works.length_le_cursor tracked numeric room
  rw [Session.revisit_history,
    History.redo_iterate_undo_iterate _ (Nat.le_trans back reachable) forth]

/-- Undoing some operations and redoing some of these leads to the snapshot from between them. -/
theorem revisit_current (back : undone ≤ graphs.length) (forth : redone ≤ undone) :
    (first.history.current :: graphs)[graphs.length - undone + redone]? =
      some (last.revisit undone redone).history.current := by
  have suffix := works.suffix_line tracked numeric room
  have inside : undone - redone < (first.history.current :: graphs).length := by
    rw [List.length_cons]
    omega
  have place : graphs.length - undone + redone =
      (first.history.current :: graphs).length - 1 - (undone - redone) := by
    rw [List.length_cons]
    omega
  rw [works.revisit_history tracked numeric room back forth,
    History.current_undo_iterate suffix inside, place, List.getElem?_eq_getElem]

/-- The graph of the draft is equal to the one that was there between the same operations. -/
theorem revisit_graph (back : undone ≤ graphs.length) (forth : redone ≤ undone) :
    ∃ graph, (first.draft.graph :: graphs)[graphs.length - undone + redone]? = some graph ∧
      ((last.revisit undone redone).draft.graph == graph) = true := by
  have current := works.revisit_current tracked numeric room back forth
  have there := ((works.tracked tracked).1.revisit undone redone).tracks
  cases place : graphs.length - undone + redone with
  | zero =>
    -- The first graph need not be recorded as it is, but the snapshot is equal to it.
    rw [place, List.getElem?_cons_zero, Option.some.injEq] at current
    have same := tracked.tracks.beq (numeric _ List.mem_cons_self)
    exact ⟨first.draft.graph, rfl, there.beq_of_current (current ▸ same)⟩
  | succ before =>
    rw [place, List.getElem?_cons_succ] at current
    have member := List.mem_cons_of_mem first.draft.graph (List.mem_of_getElem? current)
    exact ⟨_, current, there.beq_of_current (numeric _ member).beq_self⟩

theorem redo_revisit_iff (back : undone ≤ graphs.length) :
    (last.revisit undone undone).redo = (.unchanged, last.revisit undone undone) ↔
      graphs ≠ [] ∨ first.history.canRedo = false := by
  rw [redo_eq_unchanged_iff, works.revisit_history tracked numeric room back (Nat.le_refl undone),
    Nat.sub_self, Function.iterate_zero_apply]
  exact works.canRedo_iff tracked numeric

end Works

/-- How undo and redo go over operations that led through `graphs` from one session to another. -/
structure Retraces (first : Session) (graphs : List Graph) (last : Session) : Prop where
  /-- After some were undone and some of these redone, the draft is as it was between them. -/
  restores : ∀ undone ≤ graphs.length, ∀ redone ≤ undone, ∃ graph,
    (first.draft.graph :: graphs)[graphs.length - undone + redone]? = some graph ∧
      ((last.revisit undone redone).draft.graph == graph) = true
  /-- Nothing is left to redo at the last graph, or what was left before the first operation. -/
  refused : ∀ undone ≤ graphs.length,
    (last.revisit undone undone).redo = (.unchanged, last.revisit undone undone) ↔
      graphs ≠ [] ∨ first.history.canRedo = false
  travelled : ∀ undone redone, last.Travelled (last.revisit undone redone)

end Session

namespace Editing

variable {catalog : Catalog} {settings : Settings} {state : Editing}

/-- In every state of every run the draft holds the current one of at most as many snapshots as the
limit allows, and undo and redo retrace any operations from there that the limit leaves room for. -/
theorem retraces (reached : (start catalog settings).Reaches Any state) :
    (state.session.draft.graph.IsNumeric →
      (state.session.draft.graph == state.session.history.current) = true) ∧
    1 ≤ state.session.history.snapshots.length ∧
    state.session.history.snapshots.length ≤ max settings.historyLimit 1 ∧
    ∀ graphs last, state.session.Works graphs last →
      (∀ graph ∈ state.session.draft.graph :: graphs, graph.IsNumeric) →
      graphs.length + 1 ≤ settings.historyLimit →
      state.session.Retraces graphs last := by
  obtain ⟨tracked, rfl⟩ := reached.tracked
  refine ⟨fun numeric => BEq.symm (tracked.tracks.beq numeric),
    Nat.zero_lt_of_lt state.session.history.cursor_lt, tracked.limit ▸ tracked.fits,
    fun graphs last works numeric room => ?_⟩
  have room : graphs.length < state.session.history.limit := by
    rw [tracked.limit]
    omega
  exact {
    restores := fun _ back _ forth => works.revisit_graph tracked numeric room back forth
    refused := fun _ back => works.redo_revisit_iff tracked numeric room back
    travelled := last.travelled_revisit }

/-- Three snapshots are kept, so an edit and an import push out the empty graph before them. -/
theorem retraces_import :
    let settings : Settings := { Settings.standard with historyLimit := 3 }
    let document : Document :=
      { name := "", description := none, config := .empty, isPublic := false
        graph := { nodes := [⟨some "s", "rsi", none, .empty, ""⟩], edges := [] } }
    let state := ((start .builtIn settings).step
      (.command "node-1" (.addNode "rsi" ⟨0.0, 0.0⟩))).step (.importDocument document)
    let edit : Operation := .command "node-2" (.addNode "not" ⟨0.0, 0.0⟩)
    let added := state.session.step edit
    let last := added.step (.confirmImport true)
    (start .builtIn settings).Reaches Any state ∧
      state.session.Works [added.draft.graph, last.draft.graph] last ∧
      (∀ graph ∈ [state.session.draft.graph, added.draft.graph, last.draft.graph],
        graph.IsNumeric) ∧
      last.history.snapshots.map (·.nodeIds) = [["node-1"], ["node-1", "node-2"], ["s"]] ∧
      state.session.Retraces [added.draft.graph, last.draft.graph] last := by
  intro settings document state edit added last
  have reached : (start .builtIn settings).Reaches Any state := .step (.step .refl trivial) trivial
  have edits : edit.Edits := ⟨nofun, nofun⟩
  have works : state.session.Works [added.draft.graph, last.draft.graph] last :=
    .step (.step .refl edits (by decide +kernel)) trivial (by decide +kernel)
  have numeric : ∀ graph ∈ [state.session.draft.graph, added.draft.graph, last.draft.graph],
      graph.IsNumeric := by decide +kernel
  exact ⟨reached, works, numeric, by decide +kernel,
    (retraces reached).2.2.2 _ _ works numeric (by decide)⟩

end Editing

end SignalGraph
