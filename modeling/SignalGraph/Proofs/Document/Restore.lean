import SignalGraph.Document.Import
import SignalGraph.Proofs.Graph.Wiring

/-! What an import makes of a saved graph, step by step: ids for all nodes, one node of each id,
and edges wired in their order. Whatever the saved graph holds, the result is settled.
-/

set_option autoImplicit false

namespace SignalGraph.SavedGraph

variable {catalog : Catalog} {settings : Settings}

/-! ## Ids -/

theorem givenId?_ne_empty {node : SavedNode} {id : String} (given : givenId? node = some id) :
    id ≠ "" := by
  obtain ⟨-, nonempty⟩ := Option.filter_eq_some_iff.mp given
  simpa using nonempty

theorem candidateId_ne_empty (index attempt : Nat) : candidateId index attempt ≠ "" := by
  unfold candidateId
  intro empty
  split at empty
  · simpa [toString] using congrArg String.toList empty
  · simpa [toString] using congrArg String.toList empty

theorem generatedId_ne_empty (index : Nat) (taken : List String) :
    generatedId index taken ≠ "" := by
  unfold generatedId
  cases found : ((List.range (taken.length + 1)).map (candidateId index)).find? (· ∉ taken) with
  | none => exact candidateId_ne_empty _ _
  | some id =>
    obtain ⟨attempt, -, rfl⟩ := List.mem_map.mp (List.mem_of_find?_eq_some found)
    exact candidateId_ne_empty _ _

/-- No node goes by an empty id. -/
theorem id_ne_empty_of_mem_identify {taken : List String} {index : Nat} {nodes : List SavedNode}
    {entry : IdentifiedNode} (member : entry ∈ identify taken index nodes) : entry.id ≠ "" := by
  induction nodes generalizing taken index with
  | nil => exact absurd member List.not_mem_nil
  | cons node rest ih =>
    unfold identify at member
    split at member
    · rename_i id given
      rcases List.mem_cons.mp member with rfl | member
      · exact givenId?_ne_empty given
      · exact ih member
    · rcases List.mem_cons.mp member with rfl | member
      · exact generatedId_ne_empty _ _
      · exact ih member

theorem splitDuplicates_sublist (seen : List String) (nodes : List IdentifiedNode) :
    (splitDuplicates seen nodes).1.Sublist nodes := by
  induction nodes generalizing seen with
  | nil => exact .slnil
  | cons node rest ih =>
    unfold splitDuplicates
    split
    · exact (ih seen).cons node
    · exact (ih (node.id :: seen)).cons_cons node

/-- Of each id one node is kept, and none of the ids seen before. -/
theorem splitDuplicates_distinct (seen : List String) (nodes : List IdentifiedNode) :
    ((splitDuplicates seen nodes).1.map (·.id)).Nodup ∧
      ∀ node ∈ (splitDuplicates seen nodes).1, node.id ∉ seen := by
  induction nodes generalizing seen with
  | nil => exact ⟨.nil, fun _ member => absurd member List.not_mem_nil⟩
  | cons node rest ih =>
    unfold splitDuplicates
    split
    · exact ih seen
    · rename_i new
      obtain ⟨distinct, unseen⟩ := ih (node.id :: seen)
      constructor
      · refine List.nodup_cons.mpr ⟨fun again => ?_, distinct⟩
        obtain ⟨other, member, same⟩ := List.mem_map.mp again
        exact unseen other member (same ▸ List.mem_cons_self)
      · intro other member
        rcases List.mem_cons.mp member with rfl | member
        · exact new
        · exact fun known => unseen other member (List.mem_cons_of_mem _ known)

/-- Nodes with distinct ids are all kept. -/
theorem splitDuplicates_eq_self {seen : List String} {nodes : List IdentifiedNode}
    (distinct : (nodes.map (·.id)).Nodup) (unseen : ∀ node ∈ nodes, node.id ∉ seen) :
    splitDuplicates seen nodes = (nodes, []) := by
  induction nodes generalizing seen with
  | nil => rfl
  | cons node rest ih =>
    obtain ⟨new, distinct⟩ := List.nodup_cons.mp distinct
    have restUnseen : ∀ other ∈ rest, other.id ∉ node.id :: seen := by
      intro other member known
      rcases List.mem_cons.mp known with same | known
      · exact new (List.mem_map.mpr ⟨other, member, same⟩)
      · exact unseen other (List.mem_cons_of_mem node member) known
    simp only [splitDuplicates, unseen node List.mem_cons_self, if_false, ih distinct restUnseen]

/-- The nodes of a saved graph that an import keeps, with the ids they go by. -/
def kept (saved : SavedGraph) : List IdentifiedNode :=
  (splitDuplicates [] (identify (givenIds saved.nodes) 0 saved.nodes)).1

theorem kept_distinct (saved : SavedGraph) : (saved.kept.map (·.id)).Nodup :=
  (splitDuplicates_distinct [] _).1

theorem kept_id_ne_empty {saved : SavedGraph} {entry : IdentifiedNode}
    (member : entry ∈ saved.kept) : entry.id ≠ "" :=
  id_ne_empty_of_mem_identify ((splitDuplicates_sublist [] _).subset member)

/-! ## Edges -/

/-- What every connection keeps, wiring keeps. -/
theorem wire_keeps {P : Graph → Prop}
    (connected : ∀ (graph next : Graph) (saved : SavedEdge) (edge : Edge), P graph →
      graph.connect catalog (connection saved) = .ok (edge, next) → P next)
    {graph : Graph} (start : P graph) (edges : List SavedEdge) :
    P (wire catalog graph edges).graph := by
  induction edges generalizing graph with
  | nil => exact start
  | cons saved rest ih =>
    unfold wire
    split
    · exact ih start
    · split
      · rename_i edge next taken
        exact ih (connected graph next saved edge start taken)
      · exact ih start

theorem wire_nodes (graph : Graph) (edges : List SavedEdge) :
    (wire catalog graph edges).graph.nodes = graph.nodes := by
  refine wire_keeps (P := fun next => next.nodes = graph.nodes) ?_ rfl edges
  intro before next saved edge same taken
  obtain ⟨-, -, rfl⟩ := Graph.connect_eq_ok_iff.mp taken
  exact same

theorem wire_settled {graph : Graph} (settled : graph.Settled catalog) (edges : List SavedEdge) :
    (wire catalog graph edges).graph.Settled catalog :=
  wire_keeps (fun _ _ _ _ settled taken => settled.connect taken) settled edges

/-- Every edge of the result was there or stands for a saved one. -/
theorem mem_wire {graph : Graph} {edges : List SavedEdge} :
    ∀ edge ∈ (wire catalog graph edges).graph.edges,
      edge ∈ graph.edges ∨ ∃ saved, edge = (connection saved).edge := by
  refine wire_keeps (P := fun next => ∀ edge ∈ next.edges,
    edge ∈ graph.edges ∨ ∃ saved, edge = (connection saved).edge) ?_ (fun _ => Or.inl) edges
  intro before next saved edge known taken other member
  obtain ⟨-, -, rfl⟩ := Graph.connect_eq_ok_iff.mp taken
  rcases List.mem_append.mp member with member | member
  · exact known other (List.mem_filter.mp member).1
  · exact Or.inr ⟨saved, List.mem_singleton.mp member⟩

/-- Both ends of the edge are among the ids. -/
def joins (ids : List String) (edge : SavedEdge) : Bool := edge.source ∈ ids && edge.target ∈ ids

theorem joins_iff {ids : List String} {edge : SavedEdge} :
    joins ids edge = true ↔ edge.source ∈ ids ∧ edge.target ∈ ids := by
  simp [joins]

theorem joins_of_admitted {graph : Graph} {edge : SavedEdge}
    (admitted : graph.rejection? catalog (connection edge) = none) :
    joins graph.nodeIds edge = true :=
  joins_iff.mpr ⟨Graph.source_mem_nodeIds admitted, Graph.target_mem_nodeIds admitted⟩

theorem isNone_or_isNone_eq (graph : Graph) (edge : SavedEdge) :
    ((graph.node? edge.source).isNone || (graph.node? edge.target).isNone) =
      !joins graph.nodeIds edge := by
  rw [Bool.eq_iff_iff]
  simp only [Bool.or_eq_true, Option.isNone_iff_eq_none, Graph.node?_eq_none_iff,
    Bool.not_eq_true', joins, Bool.and_eq_false_iff, decide_eq_false_iff_not]

section

variable {graph : Graph} {edge : SavedEdge} {rest : List SavedEdge}

theorem wire_cons_dangling (dangling : joins graph.nodeIds edge = false) :
    wire catalog graph (edge :: rest) =
      { wire catalog graph rest with dropped := edge :: (wire catalog graph rest).dropped } := by
  simp only [wire, isNone_or_isNone_eq, dangling, Bool.not_false, if_true]

theorem wire_cons_refused {reason : Rejection} (joined : joins graph.nodeIds edge = true)
    (refused : graph.rejection? catalog (connection edge) = some reason) :
    wire catalog graph (edge :: rest) =
      { wire catalog graph rest with
        rejected := ⟨edge, reason⟩ :: (wire catalog graph rest).rejected } := by
  simp [wire, isNone_or_isNone_eq, joined, Graph.connect, refused]

theorem wire_cons_admitted (admitted : graph.rejection? catalog (connection edge) = none) :
    wire catalog graph (edge :: rest) =
      wire catalog { graph with
        edges := graph.edges.filter
          (fun old => !graph.displaces catalog (connection edge) old) ++
            [(connection edge).edge] } rest := by
  simp [wire, isNone_or_isNone_eq, joins_of_admitted admitted, Graph.connect, admitted]

end

/-- Whether an edge is dropped depends on the nodes alone, and these stay. -/
theorem wire_dropped (graph : Graph) (edges : List SavedEdge) :
    (wire catalog graph edges).dropped = edges.filter fun edge => !joins graph.nodeIds edge := by
  induction edges generalizing graph with
  | nil => rfl
  | cons edge rest ih =>
    cases joined : joins graph.nodeIds edge with
    | false => simp [wire_cons_dangling joined, joined, ih]
    | true =>
      cases refused : graph.rejection? catalog (connection edge) with
      | some reason => simp [wire_cons_refused joined refused, joined, ih]
      | none =>
        rw [wire_cons_admitted refused, ih, List.filter_cons, joined]
        rfl

/-- So does the reason why an edge is rejected. -/
theorem wire_rejected (graph : Graph) (edges : List SavedEdge) :
    (wire catalog graph edges).rejected =
      (edges.filter (joins graph.nodeIds)).filterMap fun edge =>
        (graph.rejection? catalog (connection edge)).map (⟨edge, ·⟩) := by
  induction edges generalizing graph with
  | nil => rfl
  | cons edge rest ih =>
    cases joined : joins graph.nodeIds edge with
    | false => simp [wire_cons_dangling joined, joined, ih]
    | true =>
      cases refused : graph.rejection? catalog (connection edge) with
      | some reason => simp [wire_cons_refused joined refused, joined, refused, ih]
      | none =>
        rw [wire_cons_admitted refused, ih, List.filter_cons, joined, if_pos rfl,
          List.filterMap_cons, refused]
        rfl

/-- Edges that the rules admit are neither dropped nor rejected, whatever they displace. -/
theorem wire_admitted {graph : Graph} {edges : List SavedEdge}
    (admitted : ∀ saved ∈ edges, graph.rejection? catalog (connection saved) = none) :
    (wire catalog graph edges).dropped = [] ∧ (wire catalog graph edges).rejected = [] := by
  constructor
  · rw [wire_dropped, List.filter_eq_nil_iff]
    intro saved member
    simp [joins_of_admitted (admitted saved member)]
  · rw [wire_rejected, List.filterMap_eq_nil_iff]
    intro saved member
    rw [admitted saved (List.mem_filter.mp member).1, Option.map_none]

/-! ## The graph -/

theorem restore_graph (saved : SavedGraph) :
    (saved.restore catalog settings).1 =
      (wire catalog ⟨saved.kept.map (importNode catalog settings), []⟩ saved.edges).graph := rfl

theorem restore_report (saved : SavedGraph) :
    (saved.restore catalog settings).2 =
      { droppedEdges :=
          (wire catalog ⟨saved.kept.map (importNode catalog settings), []⟩ saved.edges).dropped
        rejectedEdges :=
          (wire catalog ⟨saved.kept.map (importNode catalog settings), []⟩ saved.edges).rejected
        duplicateIds := (saved.restore catalog settings).2.duplicateIds
        generatedIds := (saved.restore catalog settings).2.generatedIds
        unresolvedKinds := sortedDistinct
          ((saved.kept.map (·.node.kind)).filter fun kind => !catalog.contains kind) } := rfl

theorem restore_nodes (saved : SavedGraph) :
    (saved.restore catalog settings).1.nodes = saved.kept.map (importNode catalog settings) := by
  rw [restore_graph, wire_nodes]

theorem restore_settled (saved : SavedGraph) :
    (saved.restore catalog settings).1.Settled catalog := by
  rw [restore_graph]
  refine wire_settled ⟨?_, ?_, ?_, .nil⟩ saved.edges
  · rw [Graph.nodeIds, List.map_map]
    exact saved.kept_distinct
  · exact fun _ member => absurd member List.not_mem_nil
  · exact fun _ member => absurd member List.not_mem_nil

end SignalGraph.SavedGraph
