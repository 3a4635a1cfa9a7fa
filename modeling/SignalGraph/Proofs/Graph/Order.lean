import SignalGraph.Proofs.Graph.EdgeName
import SignalGraph.Proofs.Graph.Edited
import SignalGraph.Proofs.Graph.Equality

/-! The order in which a graph lists its nodes and edges.

Two graphs of one structure are equal exactly if their ids come in the same order. A connection that
leaves the structure as it is makes an edge again that is there already; it brings another order
unless that edge is the last one.
-/

set_option autoImplicit false

namespace SignalGraph

namespace Graph

variable {catalog : Catalog} {graph other next : Graph}

/-- The ids of nodes come in the same order, and so do those of edges. -/
structure SameOrder (graph other : Graph) : Prop where
  nodes : graph.nodeIds = other.nodeIds
  edges : graph.edges.map (·.id) = other.edges.map (·.id)

theorem SameOrder.refl (graph : Graph) : graph.SameOrder graph := ⟨rfl, rfl⟩

theorem SameOrder.symm (order : graph.SameOrder other) : other.SameOrder graph :=
  ⟨order.nodes.symm, order.edges.symm⟩

/-- What is found equal to something is equal to itself. -/
theorem isNumeric_of_sameStructure (same : graph.sameStructure other = true) : graph.IsNumeric := by
  intro node member
  obtain ⟨found, -, equal⟩ := (sameStructure_eq_true_iff.mp same).2.2.1 node member
  exact node.beq_self_iff.mp (BEq.trans (BEq.symm equal) equal)

theorem sameOrder_of_beq (same : (graph == other) = true) : graph.SameOrder other := by
  obtain ⟨nodes, edges⟩ := beq_iff.mp same
  exact ⟨map_eq_of_beq (fun _ _ equal => (Node.beq_iff.mp equal).1) nodes,
    map_eq_of_beq (fun _ _ equal => congrArg Edge.id (eq_of_beq equal)) edges⟩

theorem length_of_beq (same : (graph == other) = true) :
    graph.nodes.length = other.nodes.length ∧ graph.edges.length = other.edges.length := by
  have order := sameOrder_of_beq same
  have nodes := congrArg List.length order.nodes
  have edges := congrArg List.length order.edges
  simp only [nodeIds, List.length_map] at nodes edges
  exact ⟨nodes, edges⟩

/-- What graphs of one structure may still differ in is their order. -/
theorem beq_iff_sameOrder (distinct : graph.nodeIds.Nodup)
    (named : (graph.edges.map (·.id)).Nodup) (same : graph.sameStructure other = true) :
    (graph == other) = true ↔ graph.SameOrder other := by
  obtain ⟨-, -, nodes, edges⟩ := sameStructure_eq_true_iff.mp same
  refine ⟨sameOrder_of_beq, fun order => beq_iff.mpr ⟨?nodes, ?edges⟩⟩
  case nodes =>
    refine beq_of_map_eq order.nodes fun node member found present key => ?_
    obtain ⟨met, lookup, equal⟩ := nodes node member
    rw [key, node?_of_mem (order.nodes ▸ distinct) present, Option.some.injEq] at lookup
    exact BEq.symm (lookup ▸ equal)
  case edges =>
    refine beq_of_map_eq order.edges fun edge member found present key => ?_
    have alone : ∀ another ∈ other.edges, another.id = found.id → another = found :=
      fun another there equal =>
        List.inj_on_of_nodup_map (order.edges ▸ named) there present equal
    have lookup := edges edge member
    rw [key, edge?_of_alone present alone, Option.some.injEq] at lookup
    exact beq_iff_eq.mpr lookup.symm

/-- The graphs differ, be it in order alone. -/
structure Apart (older newer : Graph) : Prop where
  differ : (older == newer) = false
  reordered : older.sameStructure newer = true ∨ newer.sameStructure older = true →
    ¬older.SameOrder newer

theorem Settled.not_sameOrder (settled : graph.Settled catalog)
    (differ : (graph == other) = false) (same : graph.sameStructure other = true) :
    ¬graph.SameOrder other := by
  have named := ((sameStructure_iff settled.distinct settled.edges_nodup).mp same).2
  rw [← beq_iff_sameOrder settled.distinct named same, differ]
  exact Bool.noConfusion

theorem Settled.apart (settled : graph.Settled catalog) (otherSettled : other.Settled catalog)
    (differ : (graph == other) = false) : graph.Apart other where
  differ := differ
  reordered same := by
    rcases same with same | same
    · exact settled.not_sameOrder differ same
    · exact fun order => otherSettled.not_sameOrder (BEq.comm.trans differ) same order.symm

/-! ## Edits -/

theorem ids_of_change? {id : String} {change : Node → Node}
    (found : graph.change? id change = some next) (keptId : ∀ node, (change node).id = node.id) :
    next.nodeIds = graph.nodeIds ∧ next.edges = graph.edges := by
  obtain ⟨-, rfl⟩ := change?_eq_some_iff.mp found
  exact ⟨map_changeFirst keptId id graph.nodes, rfl⟩

/-- A change of one node is told by that node, where all the others equal themselves. -/
theorem beq_changeFirst_iff {id : String} {nodes : List Node} {node : Node} (change : Node → Node)
    (found : nodes.find? (fun other => other.id = id) = some node) :
    (nodes == changeFirst id change nodes) = true ↔
      (nodes == nodes) = true ∧ (node == change node) = true := by
  induction nodes with
  | nil => cases found
  | cons first rest ih =>
    simp only [List.cons_beq_cons, Bool.and_eq_true]
    by_cases same : first.id = id
    · rw [List.find?_cons_of_pos (by simpa using same), Option.some.injEq] at found
      rw [changeFirst, if_pos same, List.cons_beq_cons, Bool.and_eq_true, found]
      constructor
      · rintro ⟨kept, others⟩
        exact ⟨⟨BEq.trans kept (BEq.symm kept), others⟩, kept⟩
      · rintro ⟨⟨-, others⟩, kept⟩
        exact ⟨kept, others⟩
    · rw [List.find?_cons_of_neg (by simpa using same)] at found
      rw [changeFirst, if_neg same, List.cons_beq_cons, Bool.and_eq_true, ih found, and_assoc]

theorem beq_change?_iff {id : String} {change : Node → Node} {node : Node}
    (found : graph.change? id change = some next) (held : graph.node? id = some node) :
    (graph == next) = true ↔ graph.IsNumeric ∧ (node == change node) = true := by
  obtain ⟨-, rfl⟩ := change?_eq_some_iff.mp found
  rw [← beq_self_iff, beq_iff, beq_iff, beq_changeFirst_iff change held]
  simp

theorem length_nodes_of_delete? {id : String} (found : graph.delete? id = some next) :
    next.nodes.length < graph.nodes.length := by
  obtain ⟨present, rfl⟩ := delete?_eq_some_iff.mp found
  obtain ⟨node, member, rfl⟩ := List.mem_map.mp present
  exact List.length_filter_lt_length_iff_exists.mpr ⟨node, member, by simp⟩

theorem length_edges_of_disconnect? {id : String} (found : graph.disconnect? id = some next) :
    next.edges.length < graph.edges.length := by
  unfold disconnect? at found
  split at found
  case isTrue present =>
    cases found
    obtain ⟨edge, member, same⟩ := List.any_eq_true.mp present
    exact List.length_filter_lt_length_iff_exists.mpr ⟨edge, member, by simpa using same⟩
  case isFalse => cases found

/-! ## Connecting again -/

variable {connection : Connection} {edge : Edge}

theorem displaces_edge (graph : Graph) (connection : Connection) :
    graph.displaces catalog connection connection.edge = true := by
  unfold displaces
  split
  · exact decide_eq_true rfl
  · simp [Connection.sameTarget, Connection.edge]

/-- Of all edges, making the last one again displaces no other. -/
theorem Settled.edges_of_last (settled : graph.Settled catalog)
    (last : graph.edges.getLast? = some connection.edge) :
    graph.edges.filter (fun old => !graph.displaces catalog connection old) ++ [connection.edge] =
      graph.edges := by
  obtain ⟨before, split⟩ := List.getLast?_eq_some_iff.mp last
  have kept : before.filter (fun old => !graph.displaces catalog connection old) = before :=
    settled.filter_displaces split
  rw [split, List.filter_append, kept]
  simp [displaces_edge]

theorem Settled.beq_connect_iff (settled : graph.Settled catalog)
    (taken : graph.connect catalog connection = .ok (edge, next)) :
    (graph == next) = true ↔
      graph.IsNumeric ∧ graph.edges.getLast? = some connection.edge := by
  obtain ⟨-, rfl, rfl⟩ := connect_eq_ok_iff.mp taken
  simp only [← beq_self_iff, beq_iff, BEq.rfl, and_true]
  refine and_congr_right fun _ => beq_iff_eq.trans ⟨fun same => ?_, fun last => ?_⟩
  · rw [same, List.getLast?_concat]
  · exact (settled.edges_of_last last).symm

/-- The edge takes its own place, which is the last one from then on. -/
theorem Settled.reconnect (settled : graph.Settled catalog)
    (taken : graph.connect catalog connection = .ok (edge, next))
    (same : next.sameStructure graph = true) :
    edge ∈ graph.edges ∧ (next.SameOrder graph ↔ graph.edges.getLast? = some edge) := by
  have nextSettled := settled.connect taken
  have named := ((sameStructure_iff nextSettled.distinct nextSettled.edges_nodup).mp same).2
  obtain ⟨-, -, -, found⟩ := sameStructure_eq_true_iff.mp same
  obtain ⟨-, rfl, rfl⟩ := connect_eq_ok_iff.mp taken
  dsimp only at found named
  have there := found connection.edge (List.mem_append_right _ List.mem_cons_self)
  refine ⟨List.mem_of_find?_eq_some there, fun order => ?_, fun last => ?_⟩
  · have ids := congrArg List.getLast? order.edges
    rw [List.map_append, List.map_singleton, List.getLast?_append, List.getLast?_singleton,
      Option.some_or, List.getLast?_map, eq_comm, Option.map_eq_some_iff] at ids
    obtain ⟨final, last, id⟩ := ids
    have alone : ∀ another ∈ graph.edges, another.id = final.id → another = final :=
      fun another present equal => List.inj_on_of_nodup_map (order.edges ▸ named) present
        (List.mem_of_getLast? last) equal
    rw [← id, edge?_of_alone (List.mem_of_getLast? last) alone, Option.some.injEq] at there
    rw [last, there]
  · exact ⟨rfl, by rw [settled.edges_of_last last]⟩

end Graph

end SignalGraph
