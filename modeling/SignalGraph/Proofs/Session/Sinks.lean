import SignalGraph.Proofs.Catalog.Layout
import SignalGraph.Proofs.Graph.Cycles
import SignalGraph.Proofs.Session.Graphs

/-! Terminal nodes end a strategy: nothing leaves them.

The layout of a terminal kind has no output, so the rules for connections keep edges from starting
at its nodes. Where no edge starts no walk goes on, and so no cycle comes by.
-/

set_option autoImplicit false

namespace SignalGraph

namespace Graph

variable {graph : Graph} {catalog : Catalog} {id : String}

/-- An id at which no edge starts is on no cycle. -/
theorem not_mem_cycle_of_no_edge (none : ∀ edge ∈ graph.edges, edge.source ≠ id)
    {ids : List String} (reported : .cycle ids ∈ graph.diagnose catalog) : id ∉ ids := by
  intro member
  have listed : ids ∈ graph.links.cycles := by
    rw [← graph.filterMap_cycle?_diagnose catalog]
    exact List.mem_filterMap.mpr ⟨_, reported, rfl⟩
  have walk := exists_mem_cycles_iff.mp ⟨ids, listed, member⟩
  obtain ⟨next, ⟨-, -, edge, drawn, starts, -⟩, -⟩ := Relation.TransGen.head'_iff.mp walk
  exact none edge drawn starts

/-- Terminal nodes are sinks: no edge starts at one, and none is on a reported cycle. -/
structure TerminalSinks (catalog : Catalog) (graph : Graph) : Prop where
  source_ne : ∀ node ∈ graph.nodes, catalog.isTerminal node.kind = true →
    ∀ edge ∈ graph.edges, edge.source ≠ node.id
  not_mem_cycle : ∀ node ∈ graph.nodes, catalog.isTerminal node.kind = true →
    ∀ ids, .cycle ids ∈ graph.diagnose catalog → node.id ∉ ids

theorem WellFormed.terminalSinks (wellFormed : graph.WellFormed catalog)
    (regular : catalog.Regular) : graph.TerminalSinks catalog := by
  have unused : ∀ node ∈ graph.nodes, catalog.isTerminal node.kind = true →
      ∀ edge ∈ graph.edges, edge.source ≠ node.id := by
    intro node member terminal edge drawn starts
    obtain ⟨handles, resolved, closed⟩ := regular.handles?_of_isTerminal terminal
    obtain ⟨opened, -⟩ :=
      wellFormed.source_output edge drawn node member starts.symm handles resolved
    rw [closed] at opened
    exact Bool.noConfusion opened
  exact ⟨unused, fun node member terminal ids reported =>
    not_mem_cycle_of_no_edge (unused node member terminal) reported⟩

end Graph

namespace Editing

/-- Whatever entries a catalog has, each definition is laid out by its kind and category, and
terminal nodes are sinks in all graphs of every run. -/
theorem laidOut_terminalSinks (entries : List CatalogEntry) :
    (∀ definition ∈ (Catalog.ofEntries entries).definitions,
      (Catalog.ofEntries entries).LaidOut definition) ∧
    ∀ settings state, (start (.ofEntries entries) settings).Reaches Fresh state →
      state.session.draft.graph.TerminalSinks state.session.catalog ∧
      ∀ snapshot ∈ state.session.history.snapshots,
        snapshot.TerminalSinks state.session.catalog := by
  have regular := Catalog.ofEntries_regular entries
  refine ⟨fun definition member => regular.laidOut member, fun settings state reached => ?_⟩
  have everywhere := reached.everywhere (Graph.settled_maintained fun _ _ fresh => fresh)
  rw [reached.surroundings.1]
  exact ⟨everywhere.draft.wellFormed.terminalSinks regular, fun snapshot member =>
    (everywhere.snapshots snapshot member).wellFormed.terminalSinks regular⟩

/-- An entry may make a kind of its own an output, but not the connective of conditions: only the
first is kept from feeding another node. -/
theorem terminalSinks_alert :
    let entry (kind : String) : CatalogEntry :=
      { kind, name := kind, description := none, category := some "output", parameters := .empty }
    let state := (((((start (.ofEntries [entry "alert", entry "and"]) .standard).step
      (.command "node-1" (.addNode "alert" ⟨0.0, 0.0⟩))).step
      (.command "node-2" (.addNode "and" ⟨0.0, 0.0⟩))).step
      (.command "node-3" (.addNode "signal_output" ⟨0.0, 0.0⟩))).step
      (.command "" (.connect ⟨"node-1", none, "node-3", none⟩))).step
      (.command "" (.connect ⟨"node-2", none, "node-3", none⟩))
    state.session.draft.graph.nodes.map (state.session.catalog.isTerminal ·.kind) =
        [true, false, true] ∧
      state.session.draft.graph.edges.map (·.source) = ["node-2"] ∧
      state.session.draft.graph.TerminalSinks state.session.catalog := by
  intro entry state
  have reached : (start (.ofEntries [entry "alert", entry "and"]) .standard).Reaches Fresh state :=
    .step (.step (.step (.step (.step .refl fun _ => by decide +kernel) fun _ => by decide +kernel)
      fun _ => by decide +kernel) nofun) nofun
  exact ⟨by decide +kernel, by decide +kernel,
    ((laidOut_terminalSinks _).2 .standard state reached).1⟩

end Editing

end SignalGraph
