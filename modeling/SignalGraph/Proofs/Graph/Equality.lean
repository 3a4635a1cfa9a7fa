import SignalGraph.Proofs.Graph.Wiring
import SignalGraph.Proofs.Json.Equality
import Mathlib.Data.List.Forall2
import Mathlib.Data.List.Perm.Subperm

/-! Equality of graphs, in their order and in any order.

A graph without NaN positions equals itself. `sameStructure` looks up every node and every edge of
one graph in the other by its id. Where node ids and edges are distinct it holds of two graphs exactly
if each is a rearrangement of the other and no two edges share an id.
-/

set_option autoImplicit false

namespace SignalGraph

/-! ## In their order -/

namespace Position

/-- No coordinate is a NaN; it may be infinite. -/
def IsNumeric (position : Position) : Prop := position.x ≠ .nan ∧ position.y ≠ .nan

instance (position : Position) : Decidable position.IsNumeric :=
  inferInstanceAs (Decidable (position.x ≠ .nan ∧ position.y ≠ .nan))

theorem beq_iff {first second : Position} :
    (first == second) = true ↔ (first.x == second.x) = true ∧ (first.y == second.y) = true :=
  Bool.and_eq_true _ _ ▸ Iff.rfl

instance : PartialEquivBEq Position where
  symm same := by
    rw [beq_iff] at same ⊢
    exact ⟨BEq.symm same.1, BEq.symm same.2⟩
  trans same next := by
    rw [beq_iff] at same next ⊢
    exact ⟨BEq.trans same.1 next.1, BEq.trans same.2 next.2⟩

theorem beq_self_iff (position : Position) :
    (position == position) = true ↔ position.IsNumeric := by
  rw [beq_iff, Binary64.beq_self_iff, Binary64.beq_self_iff, IsNumeric]

end Position

namespace Node

theorem beq_iff {first second : Node} :
    (first == second) = true ↔ first.id = second.id ∧ first.kind = second.kind ∧
      (first.position == second.position) = true ∧ first.label = second.label ∧
      (first.parameters == second.parameters) = true := by
  have unfolded : (first == second) = (first.id == second.id && (first.kind == second.kind &&
    (first.position == second.position && (first.label == second.label &&
      first.parameters == second.parameters)))) := rfl
  simp only [unfolded, Bool.and_eq_true, beq_iff_eq]

instance : PartialEquivBEq Node where
  symm same := by
    obtain ⟨id, kind, position, label, parameters⟩ := beq_iff.mp same
    exact beq_iff.mpr ⟨id.symm, kind.symm, BEq.symm position, label.symm, BEq.symm parameters⟩
  trans same next := by
    obtain ⟨id, kind, position, label, parameters⟩ := beq_iff.mp same
    obtain ⟨nextId, nextKind, nextPosition, nextLabel, nextParameters⟩ := beq_iff.mp next
    exact beq_iff.mpr ⟨id.trans nextId, kind.trans nextKind, BEq.trans position nextPosition,
      label.trans nextLabel, BEq.trans parameters nextParameters⟩

/-- The position is all that can keep a node from being equal to itself. -/
theorem beq_self_iff (node : Node) : (node == node) = true ↔ node.position.IsNumeric := by
  simp [beq_iff, Position.beq_self_iff]

end Node

namespace Graph

def IsNumeric (graph : Graph) : Prop := ∀ node ∈ graph.nodes, node.position.IsNumeric

instance (graph : Graph) : Decidable graph.IsNumeric :=
  inferInstanceAs (Decidable (∀ node ∈ graph.nodes, node.position.IsNumeric))

theorem beq_iff {first second : Graph} :
    (first == second) = true ↔
      (first.nodes == second.nodes) = true ∧ (first.edges == second.edges) = true :=
  Bool.and_eq_true _ _ ▸ Iff.rfl

instance : PartialEquivBEq Graph where
  symm same := by
    rw [beq_iff] at same ⊢
    exact ⟨BEq.symm same.1, BEq.symm same.2⟩
  trans same next := by
    rw [beq_iff] at same next ⊢
    exact ⟨BEq.trans same.1 next.1, BEq.trans same.2 next.2⟩

theorem beq_self_iff (graph : Graph) : (graph == graph) = true ↔ graph.IsNumeric := by
  simp only [beq_iff, beq_self_iff_forall, Node.beq_self_iff, BEq.rfl, and_true, IsNumeric]

theorem IsNumeric.beq_self {graph : Graph} (numeric : graph.IsNumeric) :
    (graph == graph) = true := graph.beq_self_iff.mpr numeric

/-! ## In any order -/

/-- The same nodes and edges in another order; nodes that are equal count as the same. -/
structure Rearranges (graph other : Graph) : Prop where
  nodes : ∃ nodes, List.Forall₂ (fun node found => (node == found) = true) graph.nodes nodes ∧
    nodes.Perm other.nodes
  edges : graph.edges.Perm other.edges

theorem sameStructure_eq_true_iff {graph other : Graph} :
    graph.sameStructure other = true ↔
      graph.nodes.length = other.nodes.length ∧ graph.edges.length = other.edges.length ∧
      (∀ node ∈ graph.nodes, ∃ found, other.node? node.id = some found ∧ (found == node) = true) ∧
      ∀ edge ∈ graph.edges, other.edge? edge.id = some edge := by
  have found : ∀ node : Node, (other.node? node.id == some node) = true ↔
      ∃ found, other.node? node.id = some found ∧ (found == node) = true := by
    intro node
    cases other.node? node.id <;> simp
  simp only [sameStructure, Bool.and_eq_true, beq_iff_eq, List.all_eq_true, found, and_assoc]

/-- Distinct entries that are all in a list no longer than theirs make up the whole of it. -/
theorem perm_of_subset {α : Type} {entries others : List α} (distinct : entries.Nodup)
    (subset : entries ⊆ others) (length : others.length ≤ entries.length) : entries.Perm others :=
  (distinct.subperm subset).perm_of_length_le length

/-- Looking up every node under its distinct id pairs the nodes of both graphs. -/
theorem rearranges_nodes {graph other : Graph} (distinct : graph.nodeIds.Nodup)
    (length : graph.nodes.length = other.nodes.length)
    (found : ∀ node ∈ graph.nodes,
      ∃ found, other.node? node.id = some found ∧ (found == node) = true) :
    ∃ nodes, List.Forall₂ (fun node found => (node == found) = true) graph.nodes nodes ∧
      nodes.Perm other.nodes := by
  let partner (node : Node) : Node := (other.node? node.id).getD node
  have paired : ∀ node ∈ graph.nodes,
      partner node ∈ other.nodes ∧ (partner node == node) = true := by
    intro node member
    obtain ⟨met, lookup, same⟩ := found node member
    simp only [partner, lookup, Option.getD_some]
    exact ⟨List.mem_of_find?_eq_some lookup, same⟩
  have ids : (graph.nodes.map partner).map (·.id) = graph.nodeIds := by
    rw [List.map_map]
    exact List.map_congr_left fun node member => (Node.beq_iff.mp (paired node member).2).1
  refine ⟨graph.nodes.map partner, ?_, perm_of_subset ?_ ?_ ?_⟩
  · rw [List.forall₂_map_right_iff, List.forall₂_same]
    exact fun node member => BEq.symm (paired node member).2
  · exact List.Nodup.of_map (·.id) (ids ▸ distinct)
  · intro partnered member
    obtain ⟨node, present, rfl⟩ := List.mem_map.mp member
    exact (paired node present).1
  · rw [List.length_map]
    exact Nat.le_of_eq length.symm

theorem exists_of_forall₂ {α β : Type} {R : α → β → Prop} {first : List α} {second : List β}
    (related : List.Forall₂ R first second) {entry : α} (member : entry ∈ first) :
    ∃ found ∈ second, R entry found := by
  induction related with
  | nil => exact absurd member List.not_mem_nil
  | cons related _ ih =>
    rcases List.mem_cons.mp member with rfl | member
    · exact ⟨_, List.mem_cons_self, related⟩
    · obtain ⟨found, present, same⟩ := ih member
      exact ⟨found, List.mem_cons_of_mem _ present, same⟩

theorem Rearranges.nodeIds {graph other : Graph} (rearranges : graph.Rearranges other) :
    graph.nodeIds.Perm other.nodeIds := by
  obtain ⟨nodes, paired, permuted⟩ := rearranges.nodes
  have ids : graph.nodeIds = nodes.map (·.id) := by
    rw [Graph.nodeIds, ← List.forall₂_eq_eq_eq, List.forall₂_map_left_iff,
      List.forall₂_map_right_iff]
    exact paired.imp fun node found same => (Node.beq_iff.mp same).1
  rw [ids]
  exact permuted.map _

/-- Both ways around: what is looked up by id is found if and only if it is there and the id is its
own. Two edges of one id would have to be found as one. -/
theorem sameStructure_iff {graph other : Graph} (distinct : graph.nodeIds.Nodup)
    (single : graph.edges.Nodup) :
    graph.sameStructure other = true ↔
      graph.Rearranges other ∧ (graph.edges.map (·.id)).Nodup := by
  rw [sameStructure_eq_true_iff]
  constructor
  · rintro ⟨nodeCount, edgeCount, nodes, edges⟩
    refine ⟨⟨rearranges_nodes distinct nodeCount nodes, ?_⟩, ?_⟩
    · exact perm_of_subset single (fun edge member => List.mem_of_find?_eq_some (edges edge member))
        (Nat.le_of_eq edgeCount.symm)
    · refine single.map_on fun first firstMember second secondMember same => ?_
      have found := edges first firstMember
      rw [same, edges second secondMember] at found
      exact (Option.some.inj found).symm
  · rintro ⟨rearranges, named⟩
    obtain ⟨nodes, paired, permuted⟩ := rearranges.nodes
    refine ⟨?_, rearranges.edges.length_eq, ?_, ?_⟩
    · rw [paired.length_eq, permuted.length_eq]
    · intro node member
      obtain ⟨found, present, same⟩ := exists_of_forall₂ paired member
      refine ⟨found, ?_, BEq.symm same⟩
      rw [(Node.beq_iff.mp same).1]
      exact node?_of_mem (rearranges.nodeIds.nodup_iff.mp distinct) (permuted.mem_iff.mp present)
    · intro edge member
      have there := rearranges.edges.mem_iff.mp member
      have distinct := (rearranges.edges.map _).nodup_iff.mp named
      exact edge?_of_alone there fun other present same =>
        List.inj_on_of_nodup_map distinct present there same

/-- What is equal to something is equal to itself, so a graph rearranges itself only without NaNs. -/
theorem rearranges_self_iff (graph : Graph) : graph.Rearranges graph ↔ graph.IsNumeric := by
  constructor
  · rintro ⟨⟨nodes, paired, -⟩, -⟩ node member
    obtain ⟨found, -, same⟩ := exists_of_forall₂ paired member
    exact node.beq_self_iff.mp (BEq.trans same (BEq.symm same))
  · intro numeric
    refine ⟨⟨graph.nodes, ?_, .refl _⟩, .refl _⟩
    exact List.forall₂_same.mpr fun node member => node.beq_self_iff.mpr (numeric node member)

end Graph

end SignalGraph
