import SignalGraph.Graph.Edit
import SignalGraph.Proofs.Graph.Wiring

/-! What a single edit can make of a graph, and that every edit leaves a settled graph settled. -/

set_option autoImplicit false

namespace SignalGraph.Graph

variable {catalog : Catalog} {graph next : Graph}

/-- The graphs one edit away. A node that is added goes by a made id; a copy stands the offset away
from its original. -/
inductive Edited (catalog : Catalog) (offset : Binary64) (Made : String → Prop) (graph : Graph) :
    Graph → Prop where
  | added {newId : String} (kind : String) (position : Position) (made : Made newId) :
      Edited catalog offset Made graph (graph.addNode (newNode catalog newId kind position))
  | copied {id newId : String} {node : Node} (made : Made newId)
      (found : graph.copy? id newId offset = some node) :
      Edited catalog offset Made graph (graph.addNode node)
  | entered {id : String} {values : KeyMap Json} {next : Graph}
      (found : graph.setParameters? catalog id values = some next) :
      Edited catalog offset Made graph next
  | moved {id : String} {position : Position} {next : Graph}
      (found : graph.move? id position = some next) : Edited catalog offset Made graph next
  | renamed {id label : String} {next : Graph}
      (found : graph.rename? catalog id label = some next) : Edited catalog offset Made graph next
  | deleted {id : String} {next : Graph} (found : graph.delete? id = some next) :
      Edited catalog offset Made graph next
  | connected {connection : Connection} {edge : Edge} {next : Graph}
      (taken : graph.connect catalog connection = .ok (edge, next)) :
      Edited catalog offset Made graph next
  | disconnected {id : String} {next : Graph} (found : graph.disconnect? id = some next) :
      Edited catalog offset Made graph next

theorem map_changeFirst {β : Type} {read : Node → β} {change : Node → Node}
    (kept : ∀ node, read (change node) = read node) (id : String) (nodes : List Node) :
    (changeFirst id change nodes).map read = nodes.map read := by
  induction nodes with
  | nil => rfl
  | cons node rest ih =>
    unfold changeFirst
    split
    · rw [List.map_cons, kept, List.map_cons]
    · rw [List.map_cons, ih, List.map_cons]

theorem mem_changeFirst {id : String} {change : Node → Node} {nodes : List Node} {node : Node}
    (member : node ∈ changeFirst id change nodes) :
    node ∈ nodes ∨ ∃ old ∈ nodes, node = change old := by
  induction nodes with
  | nil => exact absurd member List.not_mem_nil
  | cons first rest ih =>
    unfold changeFirst at member
    split at member
    · rcases List.mem_cons.mp member with rfl | member
      · exact Or.inr ⟨first, List.mem_cons_self, rfl⟩
      · exact Or.inl (List.mem_cons_of_mem first member)
    · rcases List.mem_cons.mp member with rfl | member
      · exact Or.inl List.mem_cons_self
      · rcases ih member with old | ⟨old, present, rfl⟩
        · exact Or.inl (List.mem_cons_of_mem first old)
        · exact Or.inr ⟨old, List.mem_cons_of_mem first present, rfl⟩

/-- With distinct ids, the node of the id is all that changes. -/
theorem changeFirst_eq_map {id : String} {nodes : List Node} {node : Node}
    (distinct : (nodes.map (·.id)).Nodup) (change : Node → Node)
    (found : nodes.find? (fun other => other.id = id) = some node) :
    changeFirst id change nodes =
      nodes.map fun other => if other.id = id then change node else other := by
  induction nodes with
  | nil => rfl
  | cons first rest ih =>
    obtain ⟨apart, distinct⟩ := List.nodup_cons.mp distinct
    by_cases same : first.id = id
    · rw [List.find?_cons_of_pos (by simpa using same), Option.some.injEq] at found
      have others : ∀ other ∈ rest, other.id ≠ id := fun other member equal =>
        apart (List.mem_map.mpr ⟨other, member, equal.trans same.symm⟩)
      rw [changeFirst, if_pos same, List.map_cons, if_pos same, found, List.cons.injEq]
      refine ⟨rfl, ?_⟩
      rw [List.map_congr_left fun other member => if_neg (others other member), List.map_id']
    · rw [List.find?_cons_of_neg (by simpa using same)] at found
      rw [changeFirst, if_neg same, List.map_cons, if_neg same, ih distinct found]

theorem changeFirst_eq_self_iff {id : String} {nodes : List Node} {node : Node}
    (change : Node → Node) (found : nodes.find? (fun other => other.id = id) = some node) :
    changeFirst id change nodes = nodes ↔ change node = node := by
  induction nodes with
  | nil => cases found
  | cons first rest ih =>
    by_cases same : first.id = id
    · rw [List.find?_cons_of_pos (by simpa using same), Option.some.injEq] at found
      rw [changeFirst, if_pos same, List.cons.injEq, found, and_iff_left rfl]
    · rw [List.find?_cons_of_neg (by simpa using same)] at found
      rw [changeFirst, if_neg same, List.cons.injEq, and_iff_right rfl, ih found]

theorem find?_changeFirst {id : String} {change : Node → Node} {nodes : List Node} {node : Node}
    (kept : ∀ node, (change node).id = node.id)
    (found : nodes.find? (fun other => other.id = id) = some node) :
    (changeFirst id change nodes).find? (fun other => other.id = id) = some (change node) := by
  induction nodes with
  | nil => cases found
  | cons first rest ih =>
    by_cases same : first.id = id
    · rw [List.find?_cons_of_pos (by simpa using same), Option.some.injEq] at found
      rw [changeFirst, if_pos same, found, List.find?_cons_of_pos]
      simpa [kept, ← found] using same
    · rw [List.find?_cons_of_neg (by simpa using same)] at found
      rw [changeFirst, if_neg same, List.find?_cons_of_neg (by simpa using same), ih found]

theorem change?_eq_some_iff {id : String} {change : Node → Node} :
    graph.change? id change = some next ↔
      id ∈ graph.nodeIds ∧ next = { graph with nodes := changeFirst id change graph.nodes } := by
  have present : (graph.node? id).isSome = true ↔ id ∈ graph.nodeIds := by
    rw [← kind?_isSome_iff, kind?, Option.isSome_map]
  rw [← present]
  unfold change?
  split
  case isTrue found => simp [found, eq_comm]
  case isFalse missing => simp [missing]

/-- Which kind an id stands for, read from the ids and kinds of the nodes alone. -/
theorem kind?_eq_lookup (graph : Graph) (id : String) :
    graph.kind? id = (graph.nodes.map fun node => (node.id, node.kind)).lookup id := by
  unfold kind? node?
  induction graph.nodes with
  | nil => rfl
  | cons node rest ih =>
    rw [List.map_cons, lookup_cons_eq, ← ih, List.find?_cons]
    by_cases same : node.id = id
    · simp [same]
    · simp [same, Ne.symm same]

theorem Settled.change {id : String} {change : Node → Node} (settled : graph.Settled catalog)
    (found : graph.change? id change = some next) (keptId : ∀ node, (change node).id = node.id)
    (keptKind : ∀ node, (change node).kind = node.kind) : next.Settled catalog := by
  obtain ⟨-, rfl⟩ := change?_eq_some_iff.mp found
  have kinds : ∀ other, kind? { graph with nodes := changeFirst id change graph.nodes } other =
      graph.kind? other := by
    intro other
    rw [kind?_eq_lookup, kind?_eq_lookup,
      map_changeFirst fun node => by rw [keptId node, keptKind node]]
  refine settled.of_sublist ?_ (List.Sublist.refl _) (fun _ _ => kinds _) fun _ _ => kinds _
  rw [nodeIds, map_changeFirst keptId]
  exact settled.distinct

theorem kind?_addNode {node : Node} {id : String} (member : id ∈ graph.nodeIds) :
    (graph.addNode node).kind? id = graph.kind? id := by
  obtain ⟨found, old⟩ := Option.isSome_iff_exists.mp ((kind?_isSome_iff graph id).mpr member)
  obtain ⟨first, lookup, -⟩ := Option.map_eq_some_iff.mp old
  rw [kind?, node?, addNode, List.find?_append]
  rw [node?] at lookup
  rw [kind?, node?, lookup, Option.some_or]

theorem Settled.addNode {node : Node} (settled : graph.Settled catalog)
    (fresh : node.id ∉ graph.nodeIds) : (graph.addNode node).Settled catalog := by
  refine settled.of_sublist ?_ (List.Sublist.refl _) ?_ ?_
  · have ids : (graph.addNode node).nodeIds = graph.nodeIds ++ [node.id] := List.map_append
    rw [ids, List.nodup_append]
    refine ⟨settled.distinct, List.nodup_singleton _, ?_⟩
    intro id member other last same
    rw [List.mem_singleton] at last
    exact fresh (last ▸ same ▸ member)
  · intro edge member
    exact kind?_addNode (source_mem_nodeIds (settled.admitted edge member))
  · intro edge member
    exact kind?_addNode (target_mem_nodeIds (settled.admitted edge member))

theorem delete?_eq_some_iff {id : String} :
    graph.delete? id = some next ↔ id ∈ graph.nodeIds ∧
      next = ⟨graph.nodes.filter fun node => node.id ≠ id,
        graph.edges.filter fun edge => !edge.touches id⟩ := by
  have present : (graph.node? id).isSome = true ↔ id ∈ graph.nodeIds := by
    rw [← kind?_isSome_iff, kind?, Option.isSome_map]
  rw [← present]
  unfold delete?
  split
  case isTrue found => simp [found, eq_comm]
  case isFalse missing => simp [missing]

/-- Other nodes are found as before. -/
theorem kind?_delete {id other : String} (different : other ≠ id)
    (found : graph.delete? id = some next) : next.kind? other = graph.kind? other := by
  obtain ⟨-, rfl⟩ := delete?_eq_some_iff.mp found
  unfold kind? node?
  rw [List.find?_filter]
  congr 2
  funext node
  by_cases same : node.id = other
  · simp [same, different]
  · simp [same]

theorem Settled.delete {id : String} (settled : graph.Settled catalog)
    (found : graph.delete? id = some next) : next.Settled catalog := by
  have untouched : ∀ edge ∈ next.edges, edge.source ≠ id ∧ edge.target ≠ id := by
    obtain ⟨-, rfl⟩ := delete?_eq_some_iff.mp found
    intro edge member
    simpa [Edge.touches] using (List.mem_filter.mp member).2
  have edges : next.edges.Sublist graph.edges := by
    obtain ⟨-, rfl⟩ := delete?_eq_some_iff.mp found
    exact List.filter_sublist
  refine settled.of_sublist ?_ edges
    (fun edge member => kind?_delete (untouched edge member).1 found)
    fun edge member => kind?_delete (untouched edge member).2 found
  obtain ⟨-, rfl⟩ := delete?_eq_some_iff.mp found
  exact settled.distinct.sublist (List.filter_sublist.map _)

theorem Settled.edited {offset : Binary64} {Made : String → Prop} (settled : graph.Settled catalog)
    (fresh : ∀ id, Made id → id ∉ graph.nodeIds) (edited : Edited catalog offset Made graph next) :
    next.Settled catalog := by
  cases edited with
  | added kind position made => exact settled.addNode (fresh _ made)
  | copied made found =>
    obtain ⟨node, -, rfl⟩ := Option.map_eq_some_iff.mp found
    exact settled.addNode (fresh _ made)
  | entered found => exact settled.change found (fun _ => rfl) fun _ => rfl
  | moved found => exact settled.change found (fun _ => rfl) fun _ => rfl
  | renamed found => exact settled.change found (fun _ => rfl) fun _ => rfl
  | deleted found => exact settled.delete found
  | connected taken => exact settled.connect taken
  | disconnected found => exact settled.disconnect found

end SignalGraph.Graph

namespace SignalGraph

/-- What edits keep of every node. -/
structure Node.Maintained (Made : String → Prop) (catalog : Catalog) (offset : Binary64)
    (P : Node → Prop) : Prop where
  added : ∀ {id : String} (kind : String) (position : Position), Made id →
    P (Graph.newNode catalog id kind position)
  copied : ∀ {node : Node} {id : String}, Made id → P node →
    P { node with id, position := node.position.shift offset offset }
  entered : ∀ {node : Node} (values : KeyMap Json), P node → P (node.withParameters catalog values)
  moved : ∀ {node : Node} (position : Position), P node → P { node with position }
  renamed : ∀ {node : Node} (label : String), P node → P (node.withLabel catalog label)

theorem Graph.forall_nodes_change {P : Node → Prop} {graph next : Graph} {id : String}
    {change : Node → Node} (kept : ∀ {node}, P node → P (change node))
    (all : ∀ node ∈ graph.nodes, P node) (found : graph.change? id change = some next) :
    ∀ node ∈ next.nodes, P node := by
  obtain ⟨-, rfl⟩ := change?_eq_some_iff.mp found
  intro node member
  rcases mem_changeFirst member with member | ⟨old, present, rfl⟩
  · exact all node member
  · exact kept (all old present)

theorem Graph.Edited.forall_nodes {Made : String → Prop} {catalog : Catalog} {offset : Binary64}
    {P : Node → Prop} {graph next : Graph} (maintained : Node.Maintained Made catalog offset P)
    (all : ∀ node ∈ graph.nodes, P node) (edited : Edited catalog offset Made graph next) :
    ∀ node ∈ next.nodes, P node := by
  have appended : ∀ added : Node, P added → ∀ node ∈ (graph.addNode added).nodes, P node := by
    intro added holds node member
    rcases List.mem_append.mp member with member | last
    · exact all node member
    · rw [List.mem_singleton.mp last]
      exact holds
  cases edited with
  | added kind position made => exact appended _ (maintained.added kind position made)
  | copied made found =>
    obtain ⟨original, present, rfl⟩ := Option.map_eq_some_iff.mp found
    exact appended _ (maintained.copied made (all original (List.mem_of_find?_eq_some present)))
  | entered found => exact forall_nodes_change (maintained.entered _) all found
  | moved found => exact forall_nodes_change (maintained.moved _) all found
  | renamed found => exact forall_nodes_change (maintained.renamed _) all found
  | deleted found =>
    obtain ⟨-, rfl⟩ := delete?_eq_some_iff.mp found
    exact fun node member => all node (List.mem_filter.mp member).1
  | connected taken =>
    obtain ⟨-, -, rfl⟩ := connect_eq_ok_iff.mp taken
    exact all
  | disconnected found =>
    unfold disconnect? at found
    split at found
    · cases found
      exact all
    · cases found

end SignalGraph
