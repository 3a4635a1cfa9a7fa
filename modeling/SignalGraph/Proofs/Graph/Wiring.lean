import SignalGraph.Graph.Connect
import SignalGraph.Proofs.KeyMap

/-! How the edges of a graph fit its nodes.

Connection rules see no more of a graph than the kinds of its nodes. `WellFormed` says what a graph
may rely on. `Settled` is what every connection keeps: the rules admit each edge, and no edge would
displace one that stands before it, so that drawing all edges anew in their order changes nothing.
-/

set_option autoImplicit false

namespace SignalGraph.Graph

variable {catalog : Catalog}

def nodeIds (graph : Graph) : List String := graph.nodes.map (·.id)

/-- The kind of the node of an id. -/
def kind? (graph : Graph) (id : String) : Option String := (graph.node? id).map (·.kind)

theorem node?_eq_none_iff (graph : Graph) (id : String) :
    graph.node? id = none ↔ id ∉ graph.nodeIds := by
  simp [node?, nodeIds]

theorem kind?_isSome_iff (graph : Graph) (id : String) :
    (graph.kind? id).isSome = true ↔ id ∈ graph.nodeIds := by
  rw [kind?, Option.isSome_map, Option.isSome_iff_ne_none, ne_eq, node?_eq_none_iff,
    Decidable.not_not]

/-- With distinct ids, a node is found under its id. -/
theorem node?_of_mem {graph : Graph} (distinct : graph.nodeIds.Nodup) {node : Node}
    (member : node ∈ graph.nodes) : graph.node? node.id = some node :=
  find?_key_of_mem distinct member

theorem kind?_of_mem {graph : Graph} (distinct : graph.nodeIds.Nodup) {node : Node}
    (member : node ∈ graph.nodes) : graph.kind? node.id = some node.kind := by
  rw [kind?, node?_of_mem distinct member, Option.map_some]

/-- An edge is found under its id if it alone has that. -/
theorem edge?_of_alone {graph : Graph} {edge : Edge} (member : edge ∈ graph.edges)
    (alone : ∀ other ∈ graph.edges, other.id = edge.id → other = edge) :
    graph.edge? edge.id = some edge := by
  cases lookup : graph.edge? edge.id with
  | none => simpa using List.find?_eq_none.mp lookup edge member
  | some other =>
    have same : other.id = edge.id := by simpa using List.find?_some lookup
    rw [alone other (List.mem_of_find?_eq_some lookup) same]

/-- Several edges may enter the handle of the target, by the layout of its kind. -/
def DeclaresMultiple (catalog : Catalog) (graph : Graph) (target : String)
    (handle : Option String) : Prop :=
  ∃ node ∈ graph.nodes, node.id = target ∧ ∃ handles, catalog.handles? node.kind = some handles ∧
    ∃ input, handles.input? handle = some input ∧ input.multiple = true

/-- What a graph may rely on. -/
structure WellFormed (catalog : Catalog) (graph : Graph) : Prop where
  ids_nodup : (graph.nodes.map (·.id)).Nodup
  source_mem : ∀ edge ∈ graph.edges, ∃ node ∈ graph.nodes, node.id = edge.source
  target_mem : ∀ edge ∈ graph.edges, ∃ node ∈ graph.nodes, node.id = edge.target
  source_ne_target : ∀ edge ∈ graph.edges, edge.source ≠ edge.target
  id_eq : ∀ edge ∈ graph.edges, edge.id = edge.edgeId
  target_declared : ∀ edge ∈ graph.edges, ∀ node ∈ graph.nodes, node.id = edge.target →
    ∀ handles, catalog.handles? node.kind = some handles →
      handles.declaresInput edge.targetHandle = true
  source_output : ∀ edge ∈ graph.edges, ∀ node ∈ graph.nodes, node.id = edge.source →
    ∀ handles, catalog.handles? node.kind = some handles →
      handles.hasOutput = true ∧ edge.sourceHandle = none
  edges_distinct : graph.edges.Pairwise fun first second =>
    ¬(first.source = second.source ∧ first.target = second.target ∧
      first.targetHandle = second.targetHandle)
  /-- Two edges enter one handle only where the handle is declared multiple. -/
  single : graph.edges.Pairwise fun first second =>
    first.target = second.target → first.targetHandle = second.targetHandle →
      graph.DeclaresMultiple catalog first.target first.targetHandle

/-- The rules read off the kinds of the two ends. -/
theorem rejection?_eq_none_iff (graph : Graph) (connection : Connection) :
    graph.rejection? catalog connection = none ↔
      ∃ source target, graph.kind? connection.source = some source ∧
        graph.kind? connection.target = some target ∧ connection.source ≠ connection.target ∧
        (∀ handles, catalog.handles? target = some handles →
          handles.declaresInput connection.targetHandle = true) ∧
        ∀ handles, catalog.handles? source = some handles →
          handles.hasOutput = true ∧ connection.sourceHandle = none := by
  unfold rejection? kind?
  cases graph.node? connection.source with
  | none => simp
  | some source =>
    cases graph.node? connection.target with
    | none => simp
    | some target =>
      by_cases loop : connection.source = connection.target
      · simp [loop]
      simp only [loop, if_false]
      cases entered : catalog.handles? target.kind with
      | none =>
        cases left : catalog.handles? source.kind with
        | none => simp [loop, entered, left]
        | some handles => cases output : handles.hasOutput <;> simp [loop, entered, left, output]
      | some inputs =>
        cases declared : inputs.declaresInput connection.targetHandle with
        | false => simp [loop, entered, declared]
        | true =>
          cases left : catalog.handles? source.kind with
          | none => simp [loop, entered, declared, left]
          | some handles =>
            cases output : handles.hasOutput <;> simp [loop, entered, declared, left, output]

theorem acceptsMultiple_eq (graph : Graph) (target : String) (handle : Option String) :
    graph.acceptsMultiple catalog target handle =
      ((graph.kind? target).bind fun kind =>
        (catalog.handles? kind).bind (·.input? handle)).any (·.multiple) := by
  unfold acceptsMultiple kind?
  cases graph.node? target <;> rfl

theorem declaresMultiple_of_accepts {graph : Graph} {target : String} {handle : Option String}
    (accepts : graph.acceptsMultiple catalog target handle = true) :
    graph.DeclaresMultiple catalog target handle := by
  simp only [acceptsMultiple, Option.any_eq_true, Option.bind_eq_some_iff] at accepts
  obtain ⟨input, ⟨node, found, handles, resolved, declared⟩, multiple⟩ := accepts
  exact ⟨node, List.mem_of_find?_eq_some found, by simpa using List.find?_some found, handles,
    resolved, input, declared, multiple⟩

/-- Which edges a connection displaces depends on the kind of its target alone. -/
theorem displaces_eq_of_kind? {first second : Graph} {connection : Connection}
    (same : first.kind? connection.target = second.kind? connection.target) (edge : Edge) :
    first.displaces catalog connection edge = second.displaces catalog connection edge := by
  unfold displaces
  rw [acceptsMultiple_eq, acceptsMultiple_eq, same]

/-- A connection displaces the edge that enters a handle before it, unless the handle is declared
multiple. -/
theorem displaces_of_sameTarget {graph : Graph} {connection : Connection} {edge : Edge}
    (target : edge.target = connection.target)
    (handle : edge.targetHandle = connection.targetHandle)
    (one : ¬graph.DeclaresMultiple catalog connection.target connection.targetHandle) :
    graph.displaces catalog connection edge = true := by
  have refuses : ¬graph.acceptsMultiple catalog connection.target connection.targetHandle = true :=
    fun accepts => one (declaresMultiple_of_accepts accepts)
  simp [displaces, refuses, Connection.sameTarget, target, handle]

/-- A connection displaces an edge of its own name and its own target. -/
theorem displaces_of_edgeId {graph : Graph} {connection : Connection} {edge : Edge}
    (id : edge.id = connection.edgeId) (target : edge.target = connection.target)
    (handle : edge.targetHandle = connection.targetHandle) :
    graph.displaces catalog connection edge = true := by
  simp [displaces, id, Connection.sameTarget, target, handle]

/-- The edges of a graph are such as connections leave behind. -/
structure Settled (catalog : Catalog) (graph : Graph) : Prop where
  distinct : graph.nodeIds.Nodup
  derived : ∀ edge ∈ graph.edges, edge = edge.toConnection.edge
  admitted : ∀ edge ∈ graph.edges, graph.rejection? catalog edge.toConnection = none
  undisturbed : graph.edges.Pairwise fun earlier later =>
    graph.displaces catalog later.toConnection earlier = false

theorem settled_empty : empty.Settled catalog where
  distinct := .nil
  derived _ member := absurd member List.not_mem_nil
  admitted _ member := absurd member List.not_mem_nil
  undisturbed := .nil

theorem source_mem_nodeIds {graph : Graph} {connection : Connection}
    (admitted : graph.rejection? catalog connection = none) :
    connection.source ∈ graph.nodeIds := by
  obtain ⟨source, target, found, -⟩ := (rejection?_eq_none_iff graph connection).mp admitted
  rw [← kind?_isSome_iff, found, Option.isSome_some]

theorem target_mem_nodeIds {graph : Graph} {connection : Connection}
    (admitted : graph.rejection? catalog connection = none) :
    connection.target ∈ graph.nodeIds := by
  obtain ⟨source, target, -, found, -⟩ := (rejection?_eq_none_iff graph connection).mp admitted
  rw [← kind?_isSome_iff, found, Option.isSome_some]

/-- An edge that is made again displaces none of those before it. -/
theorem Settled.filter_displaces {graph : Graph} {before after : List Edge} {edge : Edge}
    (settled : graph.Settled catalog) (split : graph.edges = before ++ edge :: after) :
    before.filter (fun earlier => !graph.displaces catalog edge.toConnection earlier) = before := by
  have undisturbed := settled.undisturbed
  rw [split] at undisturbed
  obtain ⟨-, -, apart⟩ := List.pairwise_append.mp undisturbed
  refine List.filter_eq_self.mpr fun earlier present => ?_
  rw [apart earlier present edge List.mem_cons_self]
  rfl

theorem Settled.wellFormed {graph : Graph} (settled : graph.Settled catalog) :
    graph.WellFormed catalog where
  ids_nodup := settled.distinct
  source_mem edge member := List.mem_map.mp (source_mem_nodeIds (settled.admitted edge member))
  target_mem edge member := List.mem_map.mp (target_mem_nodeIds (settled.admitted edge member))
  source_ne_target edge member := by
    obtain ⟨source, target, -, -, different, -⟩ :=
      (rejection?_eq_none_iff graph _).mp (settled.admitted edge member)
    exact different
  id_eq edge member := congrArg Edge.id (settled.derived edge member)
  target_declared edge member node present same handles resolved := by
    obtain ⟨source, target, -, found, -, declared, -⟩ :=
      (rejection?_eq_none_iff graph _).mp (settled.admitted edge member)
    have kind : target = node.kind := by
      rw [← same, kind?_of_mem settled.distinct present, Option.some.injEq] at found
      exact found.symm
    exact declared handles (kind ▸ resolved)
  source_output edge member node present same handles resolved := by
    obtain ⟨source, target, found, -, -, -, output⟩ :=
      (rejection?_eq_none_iff graph _).mp (settled.admitted edge member)
    have kind : source = node.kind := by
      rw [← same, kind?_of_mem settled.distinct present, Option.some.injEq] at found
      exact found.symm
    exact output handles (kind ▸ resolved)
  edges_distinct := by
    -- Equal ends mean equal names, and a name displaces its like under either rule.
    refine settled.undisturbed.imp_of_mem ?_
    rintro first second firstMember - kept ⟨source, target, handle⟩
    have id : first.id = second.edgeId := by
      rw [congrArg Edge.id (settled.derived first firstMember)]
      simp only [Connection.edge, Connection.edgeId, source, target, handle]
    rw [displaces_of_edgeId id target handle] at kept
    exact Bool.noConfusion kept
  single := by
    refine settled.undisturbed.imp ?_
    intro first second kept target handle
    rw [target, handle]
    refine Classical.byContradiction fun one => ?_
    rw [displaces_of_sameTarget target handle one] at kept
    exact Bool.noConfusion kept

/-- Fewer edges over nodes that keep the kinds of the ends are settled still. -/
theorem Settled.of_sublist {graph next : Graph} (settled : graph.Settled catalog)
    (distinct : next.nodeIds.Nodup) (edges : next.edges.Sublist graph.edges)
    (sources : ∀ edge ∈ next.edges, next.kind? edge.source = graph.kind? edge.source)
    (targets : ∀ edge ∈ next.edges, next.kind? edge.target = graph.kind? edge.target) :
    next.Settled catalog where
  distinct := distinct
  derived edge member := settled.derived edge (edges.subset member)
  admitted edge member := by
    have admitted := settled.admitted edge (edges.subset member)
    rw [rejection?_eq_none_iff] at admitted ⊢
    rw [sources edge member, targets edge member]
    exact admitted
  undisturbed := by
    refine (settled.undisturbed.sublist edges).imp_of_mem ?_
    intro earlier later _ member kept
    rw [displaces_eq_of_kind? (targets later member)]
    exact kept

theorem connect_eq_ok_iff {graph next : Graph} {connection : Connection} {edge : Edge} :
    graph.connect catalog connection = .ok (edge, next) ↔
      graph.rejection? catalog connection = none ∧ edge = connection.edge ∧
      next = { graph with
        edges := graph.edges.filter (fun edge => !graph.displaces catalog connection edge) ++
          [connection.edge] } := by
  unfold connect
  cases graph.rejection? catalog connection with
  | none => simp [eq_comm]
  | some reason => simp

/-- A connection keeps what it does not displace, and nothing stands behind it yet. -/
theorem Settled.connect {graph next : Graph} {connection : Connection} {edge : Edge}
    (settled : graph.Settled catalog)
    (connected : graph.connect catalog connection = .ok (edge, next)) : next.Settled catalog := by
  obtain ⟨admitted, -, rfl⟩ := connect_eq_ok_iff.mp connected
  have rest := List.filter_sublist (l := graph.edges)
    (p := fun edge => !graph.displaces catalog connection edge)
  refine ⟨settled.distinct, ?_, ?_, ?_⟩
  · intro edge member
    rcases List.mem_append.mp member with member | member
    · exact settled.derived edge (rest.subset member)
    · rw [List.mem_singleton.mp member]
      rfl
  · intro edge member
    rcases List.mem_append.mp member with member | member
    · exact settled.admitted edge (rest.subset member)
    · rw [List.mem_singleton.mp member]
      exact admitted
  · -- The filter has taken away whatever the new edge displaces.
    refine List.pairwise_append.mpr
      ⟨settled.undisturbed.sublist rest, List.pairwise_singleton _ _, ?_⟩
    intro earlier member later last
    rw [List.mem_singleton.mp last]
    have kept : graph.displaces catalog connection earlier = false := by
      simpa using (List.mem_filter.mp member).2
    exact (displaces_eq_of_kind? rfl earlier).trans kept

theorem Settled.disconnect {graph next : Graph} {id : String} (settled : graph.Settled catalog)
    (found : graph.disconnect? id = some next) : next.Settled catalog := by
  unfold disconnect? at found
  split at found
  · cases found
    exact settled.of_sublist settled.distinct List.filter_sublist (fun _ _ => rfl) fun _ _ => rfl
  · cases found

end SignalGraph.Graph
