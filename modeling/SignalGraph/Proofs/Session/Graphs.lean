import SignalGraph.Proofs.Document.Restore
import SignalGraph.Proofs.History
import SignalGraph.Proofs.Session.Run

/-! The graphs of a session: that of the draft and the snapshots of the history.

A property of graphs holds of all of them in every state of a run once the empty graph has it,
edits keep it, and imported graphs have it. Undo and redo make no graph of their own.
-/

set_option autoImplicit false

namespace SignalGraph

/-- Enough for a property to hold of all graphs of a session. -/
structure Graph.Maintained (Made : Graph → String → Prop) (catalog : Catalog) (settings : Settings)
    (P : Graph → Prop) : Prop where
  empty : P .empty
  edited : ∀ {graph next : Graph}, P graph →
    Graph.Edited catalog settings.duplicateOffset (Made graph) graph next → P next
  restored : ∀ saved : SavedGraph, P (saved.restore catalog settings).1

/-- All graphs of the session have a property. -/
structure Session.Everywhere (P : Graph → Prop) (session : Session) : Prop where
  draft : P session.draft.graph
  snapshots : ∀ snapshot ∈ session.history.snapshots, P snapshot

namespace Session.Everywhere

variable {P : Graph → Prop} {session next : Session}

/-- A graph that is put into the draft and recorded is the only new one. -/
theorem recorded (everywhere : session.Everywhere P) (graph : P next.draft.graph)
    (history : next.history = session.history.push next.draft.graph) : next.Everywhere P where
  draft := graph
  snapshots snapshot member := by
    rw [history] at member
    rcases History.mem_push member with old | rfl
    · exact everywhere.snapshots snapshot old
    · exact graph

/-- Moving the cursor brings back a snapshot. -/
theorem recalled (everywhere : session.Everywhere P)
    (snapshots : next.history.snapshots = session.history.snapshots)
    (graph : next.draft.graph = next.history.current) : next.Everywhere P where
  draft := by
    rw [graph]
    exact everywhere.snapshots _ (snapshots ▸ next.history.current_mem)
  snapshots snapshot member := everywhere.snapshots snapshot (snapshots ▸ member)

theorem unmoved (everywhere : session.Everywhere P)
    (graph : next.draft.graph = session.draft.graph) (history : next.history = session.history) :
    next.Everywhere P where
  draft := graph ▸ everywhere.draft
  snapshots := history ▸ everywhere.snapshots

theorem stepped {Made : Graph → String → Prop}
    (maintained : Graph.Maintained Made session.catalog session.settings P)
    (everywhere : session.Everywhere P)
    (stepped : session.Stepped (Made session.draft.graph) next) : next.Everywhere P := by
  cases stepped with
  | kept draft graph => exact everywhere.unmoved graph rfl
  | edited edited => exact everywhere.recorded (maintained.edited everywhere.draft edited) rfl
  | undone => exact everywhere.recalled (History.undo_snapshots _) rfl
  | redone => exact everywhere.recalled (History.redo_snapshots _) rfl
  | loaded strategyId document =>
    refine ⟨maintained.restored document.graph, fun snapshot member => ?_⟩
    rw [List.mem_singleton.mp member]
    exact maintained.restored document.graph
  | imported document parked =>
    -- Merging the draft leaves the imported graph as it is.
    exact everywhere.recorded (maintained.restored document.graph) rfl
  | parked document => exact everywhere.unmoved rfl rfl
  | begun => exact everywhere.unmoved rfl rfl
  | written current id => exact everywhere.unmoved rfl rfl
  | failed current => exact everywhere.unmoved rfl rfl
  | attended tasks => exact everywhere.unmoved rfl rfl

end Session.Everywhere

namespace Session

theorem everywhere_new {Made : Graph → String → Prop} {catalog : Catalog} {settings : Settings}
    {P : Graph → Prop} (maintained : Graph.Maintained Made catalog settings P) :
    (new catalog settings).Everywhere P where
  draft := maintained.empty
  snapshots snapshot member := by
    rw [List.mem_singleton.mp member]
    exact maintained.empty

/-- No operation exchanges the catalog or the settings. -/
theorem Stepped.surroundings {Made : String → Prop} {session next : Session}
    (stepped : session.Stepped Made next) :
    next.catalog = session.catalog ∧ next.settings = session.settings := by
  cases stepped <;> exact ⟨rfl, rfl⟩

end Session

namespace Editing

variable {catalog : Catalog} {settings : Settings} {state : Editing}

theorem Reaches.surroundings {Made : Graph → String → Prop}
    (reached : (start catalog settings).Reaches (Brings Made) state) :
    state.session.catalog = catalog ∧ state.session.settings = settings := by
  refine reached.keeps (P := fun state => state.session.catalog = catalog ∧
    state.session.settings = settings) ?_ ⟨rfl, rfl⟩
  intro state operation brings ih
  obtain ⟨sameCatalog, sameSettings⟩ := (Session.stepped brings).surroundings
  exact ⟨sameCatalog.trans ih.1, sameSettings.trans ih.2⟩

/-- What is maintained holds of all graphs in every state of every run. -/
theorem Reaches.everywhere {Made : Graph → String → Prop} {P : Graph → Prop}
    (maintained : Graph.Maintained Made catalog settings P)
    (reached : (start catalog settings).Reaches (Brings Made) state) :
    state.session.Everywhere P := by
  induction reached with
  | refl => exact Session.everywhere_new maintained
  | step reached brings ih =>
    obtain ⟨rfl, rfl⟩ := reached.surroundings
    exact ih.stepped maintained (Session.stepped brings)

end Editing

theorem Graph.settled_maintained {Made : Graph → String → Prop} {catalog : Catalog}
    {settings : Settings} (fresh : ∀ graph id, Made graph id → id ∉ graph.nodeIds) :
    Maintained Made catalog settings (Settled catalog) where
  empty := settled_empty
  edited settled edited := settled.edited (fresh _) edited
  restored saved := saved.restore_settled

/-- The draft and all snapshots of the history are well formed in every state of every run, whatever
is loaded and imported on the way, if only no node is added under an id that is taken. -/
theorem Editing.reaches_wellFormed {catalog : Catalog} {settings : Settings} {state : Editing}
    (reached : (start catalog settings).Reaches Fresh state) :
    state.session.draft.graph.WellFormed catalog ∧
      ∀ snapshot ∈ state.session.history.snapshots, snapshot.WellFormed catalog := by
  have everywhere := reached.everywhere (Graph.settled_maintained fun _ _ fresh => fresh)
  exact ⟨everywhere.draft.wellFormed, fun snapshot member =>
    (everywhere.snapshots snapshot member).wellFormed⟩

theorem Editing.wellFormed_connected :
    let state := (((start .builtIn .standard).step
      (.command "node-1" (.addNode "rsi" ⟨0.0, 0.0⟩))).step
      (.command "node-2" (.addNode "signal_output" ⟨0.0, 0.0⟩))).step
      (.command "" (.connect ⟨"node-1", none, "node-2", none⟩))
    state.session.draft.graph.edges.map (·.id) = ["edge-node-1-node-2"] ∧
      (start .builtIn .standard).Reaches Fresh state ∧
      state.session.draft.graph.WellFormed .builtIn ∧
      ∀ snapshot ∈ state.session.history.snapshots, snapshot.WellFormed .builtIn := by
  intro state
  have reached : (start .builtIn .standard).Reaches Fresh state :=
    .step (.step (.step .refl fun _ => by decide) fun _ => by decide) nofun
  exact ⟨by decide +kernel, reached, reaches_wellFormed reached⟩

end SignalGraph
