import SignalGraph.Proofs.Graph.Order
import SignalGraph.Proofs.Session.Timeline
import Mathlib.Data.List.Chain

/-! Snapshots next to each other.

A snapshot is recorded unless it equals the current one, so neighbours in a history always differ.
Equality minds the order of nodes and edges: two neighbours may hold the same in another order, and
an undo between them changes nothing else. Of all commands only making an edge again, and not the
last one, is recorded in this way.
-/

set_option autoImplicit false

namespace SignalGraph

/-! ## Histories -/

namespace History

theorem getLast?_line {α : Type} (history : History α) :
    history.line.getLast? = some history.current := by
  obtain ⟨before, split⟩ := history.current_suffix_line
  rw [← split, List.getLast?_concat]

section Varied

variable {α : Type} [BEq α] {history : History α} {given : α}

/-- No snapshot equals the one before it. -/
def Varied (history : History α) : Prop :=
  history.snapshots.IsChain fun older newer => (older == newer) = false

theorem Varied.append (varied : history.Varied) (differs : (history.current == given) = false) :
    (history.append given).Varied := by
  have line : history.line.IsChain fun older newer => (older == newer) = false := varied.take _
  have longer : (history.line ++ [given]).IsChain fun older newer => (older == newer) = false := by
    refine List.isChain_append.mpr ⟨line, .singleton _, fun older last newer first => ?_⟩
    rw [getLast?_line, Option.mem_some_iff] at last
    rw [List.head?_cons, Option.mem_some_iff] at first
    exact last ▸ first ▸ differs
  rw [Varied, snapshots_append]
  exact longer.drop _

theorem Varied.push (varied : history.Varied) (given : α) : (history.push given).Varied := by
  cases same : history.current == given with
  | true => exact (push_of_same same).symm ▸ varied
  | false => exact (push_of_differs same).symm ▸ varied.append same

theorem Varied.getElem? (varied : history.Varied) {place : Nat} {older newer : α}
    (first : history.snapshots[place]? = some older)
    (second : history.snapshots[place + 1]? = some newer) : (older == newer) = false := by
  obtain ⟨_, rfl⟩ := List.getElem?_eq_some_iff.mp first
  obtain ⟨inside, rfl⟩ := List.getElem?_eq_some_iff.mp second
  exact List.isChain_iff_getElem.mp varied place inside

theorem Varied.undo (varied : history.Varied) (possible : history.canUndo = true) :
    (history.undo.current == history.current) = false := by
  have positive : 0 < history.cursor := of_decide_eq_true possible
  refine varied.getElem? history.undo.snapshots_getElem?_cursor ?_
  rw [undo_cursor, Nat.sub_add_cancel positive]
  exact history.snapshots_getElem?_cursor

theorem Varied.redo (varied : history.Varied) (possible : history.canRedo = true) :
    (history.current == history.redo.current) = false := by
  have inside : history.cursor + 1 < history.snapshots.length := of_decide_eq_true possible
  have next := history.redo.snapshots_getElem?_cursor
  have moved : history.redo.cursor = history.cursor + 1 := by simp [History.redo, inside]
  rw [redo_snapshots, moved] at next
  exact varied.getElem? history.snapshots_getElem?_cursor next

end Varied

/-- What a push does with a graph of the structure that the current one has. -/
structure MindsOrder (history : History Graph) (graph : Graph) : Prop where
  kept : graph.SameOrder history.current →
    history.push? graph = none ∧ history.push graph = history
  recorded : ¬graph.SameOrder history.current →
    history.push? graph = some (history.append graph)

theorem mindsOrder {history : History Graph} {graph : Graph} (distinct : graph.nodeIds.Nodup)
    (named : (graph.edges.map (·.id)).Nodup)
    (same : graph.sameStructure history.current = true) : history.MindsOrder graph := by
  have equal : (history.current == graph) = true ↔ graph.SameOrder history.current := by
    rw [BEq.comm, Graph.beq_iff_sameOrder distinct named same]
  constructor
  · intro order
    have current := equal.mpr order
    exact ⟨by rw [push?, if_pos current], push_of_same current⟩
  · intro order
    rw [push?, if_neg (equal.not.mpr order)]

end History

/-! ## Sessions -/

namespace Session

variable {session next : Session} {command : Command}

theorem varied_stepped {Made : String → Prop} (varied : session.history.Varied)
    (stepped : session.Stepped Made next) : next.history.Varied := by
  cases stepped with
  | edited => exact varied.push _
  | redone =>
    rw [History.Varied, History.redo_snapshots]
    exact varied
  | loaded => exact List.IsChain.singleton _
  | imported => exact varied.push _
  | _ => exact varied

/-- An edge is made again that is there already and not the last one. -/
def Rewires (session : Session) (command : Command) : Prop :=
  ∃ connection, command = .connect connection ∧
    connection.edge ∈ session.draft.graph.edges ∧
    session.draft.graph.edges.getLast? ≠ some connection.edge

/-- An edit that keeps the counts keeps all ids in place, or it is a connection. -/
theorem kept_or_connected (newId : String) (edits : command ≠ .undo ∧ command ≠ .redo)
    (nodes : (session.dispatch newId command).2.draft.graph.nodes.length =
      session.draft.graph.nodes.length)
    (edges : (session.dispatch newId command).2.draft.graph.edges.length =
      session.draft.graph.edges.length) :
    (session.dispatch newId command).2.draft.graph.nodeIds = session.draft.graph.nodeIds ∧
        (session.dispatch newId command).2.draft.graph.edges = session.draft.graph.edges ∨
      ∃ connection edge, command = .connect connection ∧
        session.draft.graph.connect session.catalog connection =
          .ok (edge, (session.dispatch newId command).2.draft.graph) := by
  have applied : ∀ graph? : Option Graph,
      (∀ graph, graph? = some graph → (session.applyEdit graph?).2.draft.graph = graph →
        graph.nodeIds = session.draft.graph.nodeIds ∧ graph.edges = session.draft.graph.edges) →
      (session.applyEdit graph?).2.draft.graph.nodeIds = session.draft.graph.nodeIds ∧
        (session.applyEdit graph?).2.draft.graph.edges = session.draft.graph.edges := by
    intro graph? kept
    cases graph? with
    | none => exact ⟨rfl, rfl⟩
    | some graph => exact kept graph rfl rfl
  cases command with
  | undo => exact absurd rfl edits.1
  | redo => exact absurd rfl edits.2
  | addNode => simp [dispatch, addNode, edit, withGraph, Graph.addNode] at nodes
  | setParameters | moveNode | renameNode =>
    exact .inl (applied _ fun _ found _ => Graph.ids_of_change? found fun _ => rfl)
  | deleteNode node =>
    refine .inl (applied _ fun graph found same => ?_)
    rw [dispatch, same] at nodes
    exact absurd nodes (Nat.ne_of_lt (Graph.length_nodes_of_delete? found))
  | deleteEdge edge =>
    refine .inl (applied _ fun graph found same => ?_)
    rw [dispatch, same] at edges
    exact absurd edges (Nat.ne_of_lt (Graph.length_edges_of_disconnect? found))
  | duplicateNode node =>
    cases copied : session.draft.graph.copy? node newId session.settings.duplicateOffset with
    | none => simp [dispatch, copied]
    | some copy => simp [dispatch, copied, addNode, edit, withGraph, Graph.addNode] at nodes
  | connect connection =>
    cases taken : session.draft.graph.connect session.catalog connection with
    | error => simp [dispatch, taken]
    | ok made =>
      refine .inr ⟨connection, made.1, rfl, ?_⟩
      simp only [dispatch, taken, edit, withGraph]
  | removeConfig key =>
    simp only [dispatch]
    split <;> exact .inl ⟨rfl, rfl⟩
  | setName | setDescription | setConfig | setPublic => exact .inl ⟨rfl, rfl⟩

/-- Of what is as good as recorded, nothing is recorded again; all else is. -/
theorem Pushes.history_eq_iff (pushes : session.Pushes next) (tracks : session.Tracks)
    (numeric : next.draft.graph.IsNumeric) :
    next.history = session.history ↔ (session.draft.graph == next.draft.graph) = true := by
  constructor
  · intro kept
    rcases pushes with ⟨graph, -⟩ | pushed
    · exact graph ▸ numeric.beq_self
    · refine tracks.beq_of_current ?_
      cases differs : session.history.current == next.draft.graph with
      | true => rfl
      | false =>
        -- Otherwise the new graph would have become the current one.
        rw [History.push_of_differs differs, kept] at pushed
        rw [pushed, History.current_append] at differs
        exact absurd numeric.beq_self (Bool.eq_false_iff.mp differs)
  · intro same
    have current : (session.history.current == next.draft.graph) = true :=
      tracks.elim (fun equal => equal ▸ same) fun equal => BEq.trans equal same
    rcases pushes with ⟨-, kept⟩ | pushed
    · exact kept
    · rw [pushed, History.push_of_same current]

/-- An edit that keeps the structure gives an equal graph iff it keeps the order. -/
theorem dispatch_beq_iff_sameOrder (newId : String)
    (settled : session.draft.graph.Settled session.catalog)
    (edits : command ≠ .undo ∧ command ≠ .redo)
    (same : (session.dispatch newId command).2.draft.graph.sameStructure session.draft.graph = true) :
    (session.draft.graph == (session.dispatch newId command).2.draft.graph) = true ↔
      (session.dispatch newId command).2.draft.graph.SameOrder session.draft.graph := by
  obtain ⟨nodes, edges, -⟩ := Graph.sameStructure_eq_true_iff.mp same
  have unique : (session.dispatch newId command).2.draft.graph.nodeIds.Nodup ∧
      (session.dispatch newId command).2.draft.graph.edges.Nodup := by
    rcases session.kept_or_connected newId edits nodes edges with
      ⟨ids, edges⟩ | ⟨connection, edge, -, taken⟩
    · exact ⟨ids ▸ settled.distinct, edges ▸ settled.edges_nodup⟩
    · have next := settled.connect taken
      exact ⟨next.distinct, next.edges_nodup⟩
  have named := ((Graph.sameStructure_iff unique.1 unique.2).mp same).2
  rw [BEq.comm, Graph.beq_iff_sameOrder unique.1 named same]

/-- Of what keeps the structure, only making an edge again that is not the last one is recorded. -/
theorem dispatch_history_eq_iff (newId : String) (tracks : session.Tracks)
    (settled : session.draft.graph.Settled session.catalog)
    (edits : command ≠ .undo ∧ command ≠ .redo)
    (same : (session.dispatch newId command).2.draft.graph.sameStructure session.draft.graph = true) :
    (session.dispatch newId command).2.history = session.history ↔ ¬session.Rewires command := by
  have pushes : session.Pushes (session.dispatch newId command).2 :=
    (session.dispatched_any newId command).pushes edits
  rw [pushes.history_eq_iff tracks (Graph.isNumeric_of_sameStructure same),
    dispatch_beq_iff_sameOrder newId settled edits same]
  constructor
  · rintro order ⟨connection, rfl, member, last⟩
    have taken : session.draft.graph.connect session.catalog connection =
        .ok (connection.edge, _) :=
      Graph.connect_eq_ok_iff.mpr ⟨settled.admitted _ member, rfl, rfl⟩
    simp only [dispatch, taken, edit, withGraph] at order same
    exact last ((settled.reconnect taken same).2.mp order)
  · intro unwired
    obtain ⟨nodes, edges, -⟩ := Graph.sameStructure_eq_true_iff.mp same
    rcases session.kept_or_connected newId edits nodes edges with
      ⟨ids, edges⟩ | ⟨connection, edge, rfl, taken⟩
    · exact ⟨ids, congrArg (List.map (·.id)) edges⟩
    · obtain ⟨member, order⟩ := settled.reconnect taken same
      obtain ⟨-, rfl, -⟩ := Graph.connect_eq_ok_iff.mp taken
      refine order.mpr (Decidable.not_not.mp fun last => ?_)
      exact unwired ⟨connection, rfl, member, last⟩

theorem undo_graph (possible : session.history.canUndo = true) :
    session.undo.2.draft.graph = session.history.undo.current := by
  simp [undo, possible, withGraph]

theorem redo_graph (possible : session.history.canRedo = true) :
    session.redo.2.draft.graph = session.history.redo.current := by
  simp [redo, possible, withGraph]

theorem Tracks.beq_left (tracks : session.Tracks) (graph : Graph) :
    (session.history.current == graph) = (session.draft.graph == graph) :=
  tracks.elim (fun same => same ▸ rfl) BEq.congr_left

/-- How the graphs along a history differ. -/
structure TellsApart (session : Session) : Prop where
  neighbours : session.history.snapshots.IsChain Graph.Apart
  undone : session.history.canUndo = true →
    session.undo.2.draft.graph.Apart session.draft.graph
  redone : session.history.canRedo = true →
    session.draft.graph.Apart session.redo.2.draft.graph
  /-- A command that keeps the structure is recorded in one case only. -/
  edited : ∀ newId command, command ≠ .undo ∧ command ≠ .redo →
    (session.dispatch newId command).2.draft.graph.sameStructure session.draft.graph = true →
    ((session.dispatch newId command).2.history = session.history ↔ ¬session.Rewires command)

theorem tellsApart (varied : session.history.Varied) (tracks : session.Tracks)
    (everywhere : session.Everywhere (Graph.Settled session.catalog)) : session.TellsApart := by
  have settled : ∀ {history : History Graph},
      history.snapshots = session.history.snapshots → history.current.Settled session.catalog :=
    fun same => everywhere.snapshots _ (same ▸ History.current_mem _)
  constructor
  case neighbours =>
    refine List.isChain_iff_getElem.mpr fun place inside => ?_
    exact (everywhere.snapshots _ (List.getElem_mem _)).apart
      (everywhere.snapshots _ (List.getElem_mem _))
      (List.isChain_iff_getElem.mp varied place inside)
  case undone =>
    intro possible
    rw [undo_graph possible]
    refine (settled (History.undo_snapshots _)).apart everywhere.draft ?_
    rw [BEq.comm, ← tracks.beq_left, BEq.comm]
    exact varied.undo possible
  case redone =>
    intro possible
    rw [redo_graph possible]
    refine everywhere.draft.apart (settled (History.redo_snapshots _)) ?_
    rw [← tracks.beq_left]
    exact varied.redo possible
  case edited =>
    exact fun newId command edits same =>
      dispatch_history_eq_iff newId tracks everywhere.draft edits same

end Session

namespace Editing

variable {catalog : Catalog} {settings : Settings} {state : Editing}

theorem Reaches.varied {Allowed : Editing → Operation → Prop}
    (reached : (start catalog settings).Reaches Allowed state) :
    state.session.history.Varied := by
  refine reached.keeps (P := fun state => state.session.history.Varied) ?_ (.singleton _)
  exact fun state operation _ varied =>
    Session.varied_stepped varied (state.session.stepped_any operation)

/-- A graph of the structure that the current snapshot has is recorded exactly if it lists nodes and
edges in another order. In every state of every run neighbouring snapshots differ, and so do the
drafts before and after an undo: if not in structure, then in order. Among commands it takes an edge
made again for that. -/
theorem reaches_tellsApart (reached : (start catalog settings).Reaches Fresh state) :
    (∀ (history : History Graph) (graph : Graph), graph.nodeIds.Nodup →
      (graph.edges.map (·.id)).Nodup → graph.sameStructure history.current = true →
      history.MindsOrder graph) ∧
    state.session.TellsApart := by
  refine ⟨fun history graph distinct named same => History.mindsOrder distinct named same, ?_⟩
  have everywhere := reached.everywhere (Graph.settled_maintained fun _ _ fresh => fresh)
  obtain ⟨rfl, -⟩ := Reaches.surroundings reached
  exact Session.tellsApart reached.varied reached.tracked.1.tracks everywhere

/-- The first of two edges is made again: the snapshots before and after it hold the same. -/
theorem tellsApart_reconnected :
    let fork : Document :=
      { name := "", description := none, config := .empty, isPublic := false
        graph :=
          { nodes := [⟨some "s", "rsi", none, .empty, ""⟩, ⟨some "x", "not", none, .empty, ""⟩,
              ⟨some "y", "not", none, .empty, ""⟩]
            edges := [⟨none, "s", "x", none, none⟩, ⟨none, "s", "y", none, none⟩] } }
    let loaded := (start .builtIn .standard).step (.load none fork)
    let state := loaded.step (.command "" (.connect ⟨"s", none, "x", none⟩))
    loaded.session.draft.graph.sameStructure state.session.draft.graph = true ∧
      state.session.history.snapshots.map (fun graph => graph.edges.map (·.id)) =
        [["edge-s-x", "edge-s-y"], ["edge-s-y", "edge-s-x"]] ∧
      (start .builtIn .standard).Reaches Fresh state ∧
      loaded.session.history.MindsOrder state.session.draft.graph ∧ state.session.TellsApart := by
  intro fork loaded state
  have reached : (start .builtIn .standard).Reaches Fresh state :=
    .step (.step .refl trivial) nofun
  obtain ⟨pushed, apart⟩ := reaches_tellsApart reached
  exact ⟨by decide +kernel, by decide +kernel, reached,
    pushed _ _ (by decide +kernel) (by decide +kernel) (by decide +kernel), apart⟩

end Editing

end SignalGraph
