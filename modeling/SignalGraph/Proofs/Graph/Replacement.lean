import SignalGraph.Proofs.Graph.Edited
import SignalGraph.Proofs.Graph.EdgeName

/-! What a new edge takes the place of, and what goes with that.

A new edge is to supersede whatever enters the same handle, or only its like where the handle takes
several edges. It does at single handles. At the others its like is looked for by id, so an edge
elsewhere goes as well if it happens to have that id.
-/

set_option autoImplicit false

namespace SignalGraph

namespace Connection

/-- The connections join the same nodes at the same input. -/
def sameEnds (first second : Connection) : Bool :=
  first.source = second.source && first.sameTarget second

variable {first second third : Connection}

theorem sameTarget_iff : first.sameTarget second = true ↔
    first.target = second.target ∧ first.targetHandle = second.targetHandle := by
  simp [sameTarget]

theorem sameEnds_iff : first.sameEnds second = true ↔
    first.source = second.source ∧ first.target = second.target ∧
      first.targetHandle = second.targetHandle := by
  simp [sameEnds, sameTarget]

theorem sameEnds_self (connection : Connection) : connection.sameEnds connection = true :=
  sameEnds_iff.mpr ⟨rfl, rfl, rfl⟩

theorem sameTarget_of_sameEnds (same : first.sameEnds second = true) :
    first.sameTarget second = true :=
  sameTarget_iff.mpr (sameEnds_iff.mp same).2

theorem edgeId_of_sameEnds (same : first.sameEnds second = true) :
    first.edgeId = second.edgeId := by
  obtain ⟨source, target, handle⟩ := sameEnds_iff.mp same
  simp only [edgeId, source, target, handle]

/-- At one input the source can be told from the id. -/
theorem sameEnds_of_edgeId (input : first.sameTarget second = true)
    (id : first.edgeId = second.edgeId) : first.sameEnds second = true := by
  obtain ⟨target, handle⟩ := sameTarget_iff.mp input
  refine sameEnds_iff.mpr ⟨?_, target, handle⟩
  rw [edgeId, edgeId, target, handle] at id
  -- All that stands around the source is the same on both sides.
  cases entered : second.targetHandle with
  | none => simpa [entered, String.append_assoc] using id
  | some name => simpa [entered, String.append_assoc] using id

end Connection

namespace Graph

variable {catalog : Catalog} {graph next : Graph} {connection : Connection} {edge : Edge}

/-! ## Edges that join nodes -/

/-- Edges go by the ids of their ends, and these are nodes of the graph. -/
structure Joined (graph : Graph) : Prop where
  derived : ∀ edge ∈ graph.edges, edge = edge.toConnection.edge
  source_mem : ∀ edge ∈ graph.edges, edge.source ∈ graph.nodeIds
  target_mem : ∀ edge ∈ graph.edges, edge.target ∈ graph.nodeIds

theorem Settled.joined (settled : graph.Settled catalog) : graph.Joined where
  derived := settled.derived
  source_mem edge member := source_mem_nodeIds (settled.admitted edge member)
  target_mem edge member := target_mem_nodeIds (settled.admitted edge member)

/-- Some of the edges, over nodes that are all still there. -/
theorem Joined.of_subset (joined : graph.Joined) (edges : next.edges ⊆ graph.edges)
    (nodes : graph.nodeIds ⊆ next.nodeIds) : next.Joined where
  derived edge member := joined.derived edge (edges member)
  source_mem edge member := nodes (joined.source_mem edge (edges member))
  target_mem edge member := nodes (joined.target_mem edge (edges member))

theorem Joined.change {id : String} {change : Node → Node} (joined : graph.Joined)
    (found : graph.change? id change = some next) (keptId : ∀ node, (change node).id = node.id) :
    next.Joined := by
  obtain ⟨-, rfl⟩ := change?_eq_some_iff.mp found
  refine joined.of_subset (List.Subset.refl _) ?_
  rw [nodeIds, nodeIds, map_changeFirst keptId]
  exact List.Subset.refl _

theorem Joined.delete {id : String} (joined : graph.Joined) (found : graph.delete? id = some next) :
    next.Joined := by
  obtain ⟨-, rfl⟩ := delete?_eq_some_iff.mp found
  have stays : ∀ {other}, other ∈ graph.nodeIds → other ≠ id →
      other ∈ (graph.nodes.filter fun node => node.id ≠ id).map (·.id) := by
    intro other present different
    obtain ⟨node, member, rfl⟩ := List.mem_map.mp present
    exact List.mem_map_of_mem (List.mem_filter.mpr ⟨member, by simpa using different⟩)
  have untouched : ∀ edge ∈ graph.edges.filter fun edge => !edge.touches id,
      edge ∈ graph.edges ∧ edge.source ≠ id ∧ edge.target ≠ id := by
    intro edge member
    simpa [Edge.touches] using List.mem_filter.mp member
  exact
    { derived := fun edge member => joined.derived edge (untouched edge member).1
      source_mem := fun edge member =>
        stays (joined.source_mem edge (untouched edge member).1) (untouched edge member).2.1
      target_mem := fun edge member =>
        stays (joined.target_mem edge (untouched edge member).1) (untouched edge member).2.2 }

theorem Joined.connect (joined : graph.Joined)
    (taken : graph.connect catalog connection = .ok (edge, next)) : next.Joined := by
  obtain ⟨admitted, -, rfl⟩ := connect_eq_ok_iff.mp taken
  have cases : ∀ {P : Edge → Prop}, (∀ old ∈ graph.edges, P old) → P connection.edge →
      ∀ old ∈ graph.edges.filter (fun old => !graph.displaces catalog connection old) ++
        [connection.edge], P old := by
    intro P kept new
    rw [List.forall_mem_append]
    exact ⟨fun old member => kept old (List.mem_filter.mp member).1, by simpa using new⟩
  exact ⟨cases joined.derived rfl, cases joined.source_mem (source_mem_nodeIds admitted),
    cases joined.target_mem (target_mem_nodeIds admitted)⟩

theorem Joined.edited {offset : Binary64} {Made : String → Prop} (joined : graph.Joined)
    (edited : Edited catalog offset Made graph next) : next.Joined := by
  have added : ∀ node, (graph.addNode node).Joined := fun node =>
    joined.of_subset (List.Subset.refl _) ((List.sublist_append_left _ _).map _).subset
  cases edited with
  | added => exact added _
  | copied => exact added _
  | entered found => exact joined.change found fun _ => rfl
  | moved found => exact joined.change found fun _ => rfl
  | renamed found => exact joined.change found fun _ => rfl
  | deleted found => exact joined.delete found
  | connected taken => exact joined.connect taken
  | disconnected found =>
    unfold disconnect? at found
    split at found
    · cases found
      exact joined.of_subset List.filter_sublist.subset (List.Subset.refl _)
    · cases found

/-! ## What a connection takes away -/

/-- The edge of the new connection is to take the place of this one. -/
def supersedes (catalog : Catalog) (graph : Graph) (connection : Connection) (edge : Edge) : Bool :=
  if graph.acceptsMultiple catalog connection.target connection.targetHandle then
    edge.sameEnds connection
  else edge.sameTarget connection

/-- This edge enters another handle, and is taken for one to be superseded because of its id. -/
def mistakes (catalog : Catalog) (graph : Graph) (connection : Connection) (edge : Edge) : Bool :=
  graph.acceptsMultiple catalog connection.target connection.targetHandle &&
    !edge.sameTarget connection && edge.id = connection.edgeId

theorem displaces_eq (id : edge.id = edge.edgeId) :
    graph.displaces catalog connection edge =
      (graph.supersedes catalog connection edge || graph.mistakes catalog connection edge) := by
  unfold displaces supersedes mistakes
  cases graph.acceptsMultiple catalog connection.target connection.targetHandle with
  | false => simp
  | true =>
    -- The id tells the source at one input, and may hit any edge at another.
    by_cases input : edge.sameTarget connection = true
    · have same : edge.sameEnds connection = true ↔ edge.edgeId = connection.edgeId :=
        ⟨Connection.edgeId_of_sameEnds, Connection.sameEnds_of_edgeId input⟩
      rw [Bool.eq_iff_iff]
      simp [id, input, same]
    · have different : edge.sameEnds connection = false :=
        Bool.eq_false_iff.mpr fun same => input (Connection.sameTarget_of_sameEnds same)
      simp [input, different]

/-- Ids that are apart are not mistaken for one another. -/
theorem IdsApart.mistakes_eq_false (apart : graph.IdsApart)
    (admitted : graph.rejection? catalog connection = none) (id : edge.id = edge.edgeId)
    (source : edge.source ∈ graph.nodeIds) (target : edge.target ∈ graph.nodeIds) :
    graph.mistakes catalog connection edge = false := by
  refine Bool.eq_false_iff.mpr fun mistaken => ?_
  simp only [mistakes, Bool.and_eq_true, Bool.not_eq_true', decide_eq_true_eq] at mistaken
  obtain ⟨⟨-, elsewhere⟩, shared⟩ := mistaken
  have ends := apart.ends_eq ⟨source, target⟩
    ⟨source_mem_nodeIds admitted, target_mem_nodeIds admitted⟩ (id.symm.trans shared)
  rw [Connection.sameTarget_iff.mpr ends.2] at elsewhere
  exact Bool.noConfusion elsewhere

/-- What a connection that the rules allow makes of a graph. -/
structure Extended (catalog : Catalog) (graph : Graph) (connection : Connection) (edge : Edge)
    (next : Graph) : Prop where
  edge_eq : edge = connection.edge
  nodes : next.nodes = graph.nodes
  edges : next.edges = graph.edges.filter (fun old =>
    !graph.supersedes catalog connection old && !graph.mistakes catalog connection old) ++ [edge]
  /-- The old edges but those superseded are kept exactly if none is mistaken for one of these. -/
  kept : next.edges =
      graph.edges.filter (fun old => !graph.supersedes catalog connection old) ++ [edge] ↔
    ∀ old ∈ graph.edges, graph.mistakes catalog connection old = false
  elsewhere : ∀ old ∈ graph.edges, old.sameTarget connection = false →
    (old ∉ next.edges ↔ graph.mistakes catalog connection old = true)
  apart : graph.IdsApart → ∀ old ∈ graph.edges, graph.mistakes catalog connection old = false

/-- An edge into another handle is not to be superseded. -/
theorem supersedes_eq_false (elsewhere : edge.sameTarget connection = false) :
    graph.supersedes catalog connection edge = false := by
  have different : edge.sameEnds connection = false := by
    refine Bool.eq_false_iff.mpr fun same => ?_
    rw [Connection.sameTarget_of_sameEnds same] at elsewhere
    exact Bool.noConfusion elsewhere
  simp [supersedes, elsewhere, different]

theorem Joined.extended (joined : graph.Joined)
    (taken : graph.connect catalog connection = .ok (edge, next)) :
    graph.Extended catalog connection edge next := by
  obtain ⟨admitted, rfl, rfl⟩ := connect_eq_ok_iff.mp taken
  have id : ∀ old ∈ graph.edges, old.id = old.edgeId := fun old member =>
    congrArg Edge.id (joined.derived old member)
  have edges : graph.edges.filter (fun old => !graph.displaces catalog connection old) =
      graph.edges.filter fun old => !graph.supersedes catalog connection old &&
        !graph.mistakes catalog connection old :=
    List.filter_congr fun old member => by rw [displaces_eq (id old member), Bool.not_or]
  refine ⟨rfl, rfl, by rw [edges], ?_, ?_, fun apart old member =>
    apart.mistakes_eq_false admitted (id old member) (joined.source_mem old member)
      (joined.target_mem old member)⟩
  · rw [edges, List.append_left_inj]
    constructor
    · intro same old member
      -- A superseded edge enters the handle, so a mistaken one stands in one of the lists only.
      refine Bool.eq_false_iff.mpr fun mistaken => ?_
      have elsewhere : old.sameTarget connection = false := by
        simp only [mistakes, Bool.and_eq_true, Bool.not_eq_true'] at mistaken
        exact mistaken.1.2
      have stays : old ∈ graph.edges.filter fun old =>
          !graph.supersedes catalog connection old :=
        List.mem_filter.mpr ⟨member, by rw [supersedes_eq_false elsewhere]; rfl⟩
      rw [← same] at stays
      simp [mistaken] at stays
    · intro none
      refine List.filter_congr fun old member => ?_
      rw [none old member, Bool.not_false, Bool.and_true]
  · intro old member elsewhere
    have different : old ≠ connection.edge := by
      rintro rfl
      rw [show connection.edge.sameTarget connection = true from
        Connection.sameTarget_iff.mpr ⟨rfl, rfl⟩] at elsewhere
      exact Bool.noConfusion elsewhere
    simp [displaces_eq (id old member), member, different, supersedes_eq_false elsewhere]

end Graph

end SignalGraph
