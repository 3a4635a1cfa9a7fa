import SignalGraph.Proofs.Graph.Equality

/-! Structure as an equivalence of graphs.

The check looks at one side only: it looks up the nodes and edges of one graph in the other and
counts. Where ids are distinct this amounts to a permutation up to equality of the entries, and
those go both ways, compose, and do not mind in which order either side is listed.
-/

set_option autoImplicit false

namespace SignalGraph

section Permuted

variable {α : Type} [BEq α] {first second third : List α}

/-- A permutation, with each entry replaced by one that it equals. -/
def Permuted (first second : List α) : Prop :=
  ∃ between, List.Forall₂ (fun entry found => (entry == found) = true) first between ∧
    between.Perm second

theorem Permuted.perm_right (permuted : Permuted first second) (moved : second.Perm third) :
    Permuted first third := by
  obtain ⟨between, paired, order⟩ := permuted
  exact ⟨between, paired, order.trans moved⟩

theorem Permuted.perm_left (moved : first.Perm second) (permuted : Permuted second third) :
    Permuted first third := by
  obtain ⟨between, paired, order⟩ := permuted
  obtain ⟨other, pairedOther, orderOther⟩ := List.perm_comp_forall₂ moved paired
  exact ⟨other, pairedOther, orderOther.trans order⟩

variable [PartialEquivBEq α]

theorem forall₂_beq_trans
    (paired : List.Forall₂ (fun entry found => (entry == found) = true) first second)
    (next : List.Forall₂ (fun entry found => (entry == found) = true) second third) :
    List.Forall₂ (fun entry found => (entry == found) = true) first third := by
  induction paired generalizing third with
  | nil => exact next
  | cons same _ ih =>
    obtain ⟨found, rest, sameNext, restNext, rfl⟩ := List.forall₂_cons_left_iff.mp next
    exact .cons (BEq.trans same sameNext) (ih restNext)

theorem Permuted.symm (permuted : Permuted first second) : Permuted second first := by
  obtain ⟨between, paired, order⟩ := permuted
  have turned : List.Forall₂ (fun entry found => (entry == found) = true) between first :=
    (paired.imp fun _ _ same => BEq.symm same).flip
  exact .perm_left order.symm ⟨first, turned, .refl _⟩

theorem Permuted.trans (permuted : Permuted first second) (next : Permuted second third) :
    Permuted first third := by
  obtain ⟨between, paired, order⟩ := permuted
  obtain ⟨other, pairedOther, orderOther⟩ := Permuted.perm_left order next
  exact ⟨other, forall₂_beq_trans paired pairedOther, orderOther⟩

end Permuted

namespace Graph

variable {graph other third : Graph}

/-- The same lists in another order. -/
structure Reorders (graph other : Graph) : Prop where
  nodes : graph.nodes.Perm other.nodes
  edges : graph.edges.Perm other.edges

theorem Rearranges.symm (rearranges : graph.Rearranges other) : other.Rearranges graph :=
  ⟨Permuted.symm rearranges.nodes, rearranges.edges.symm⟩

theorem Rearranges.trans (rearranges : graph.Rearranges other) (next : other.Rearranges third) :
    graph.Rearranges third :=
  ⟨Permuted.trans rearranges.nodes next.nodes, rearranges.edges.trans next.edges⟩

theorem Rearranges.reorder {moved otherMoved : Graph} (rearranges : graph.Rearranges other)
    (left : graph.Reorders moved) (right : other.Reorders otherMoved) :
    moved.Rearranges otherMoved :=
  ⟨Permuted.perm_right (Permuted.perm_left left.nodes.symm rearranges.nodes) right.nodes,
    (left.edges.symm.trans rearranges.edges).trans right.edges⟩

/-- No two nodes and no two edges share an id, and no coordinate is a NaN. -/
structure Distinct (graph : Graph) : Prop where
  nodes : graph.nodeIds.Nodup
  edges : (graph.edges.map (·.id)).Nodup
  numeric : graph.IsNumeric

instance (graph : Graph) : Decidable graph.Distinct :=
  decidable_of_iff
    (graph.nodeIds.Nodup ∧ (graph.edges.map (·.id)).Nodup ∧ graph.IsNumeric)
    ⟨fun ⟨nodes, edges, numeric⟩ => ⟨nodes, edges, numeric⟩,
      fun ⟨nodes, edges, numeric⟩ => ⟨nodes, edges, numeric⟩⟩

theorem Distinct.reorder (distinct : graph.Distinct) (moved : graph.Reorders other) :
    other.Distinct where
  nodes := (moved.nodes.map _).nodup_iff.mp distinct.nodes
  edges := (moved.edges.map _).nodup_iff.mp distinct.edges
  numeric node member := distinct.numeric node (moved.nodes.mem_iff.mpr member)

theorem Distinct.sameStructure_iff (distinct : graph.Distinct) :
    graph.sameStructure other = true ↔ graph.Rearranges other := by
  rw [Graph.sameStructure_iff distinct.nodes (.of_map _ distinct.edges)]
  exact and_iff_left distinct.edges

/-- Of graphs with distinct ids and without NaNs, those of one structure are those that can be
rearranged into each other. So structure is an equivalence that no reordering changes. -/
theorem sameStructure_equivalence :
    (∀ graph other : Graph, graph.Distinct → other.Distinct →
      (graph.sameStructure other = true ↔ graph.Rearranges other)) ∧
    (Equivalence fun graph other : { graph : Graph // graph.Distinct } =>
      graph.val.sameStructure other.val = true) ∧
    ∀ graph other moved otherMoved : Graph, graph.Distinct → other.Distinct →
      graph.Reorders moved → other.Reorders otherMoved →
      moved.sameStructure otherMoved = graph.sameStructure other := by
  refine ⟨fun graph other distinct _ => distinct.sameStructure_iff, ?equivalence, ?reordered⟩
  case equivalence =>
    constructor
    case refl =>
      intro graph
      exact graph.property.sameStructure_iff.mpr
        ((rearranges_self_iff _).mpr graph.property.numeric)
    case symm =>
      intro graph other same
      exact other.property.sameStructure_iff.mpr (graph.property.sameStructure_iff.mp same).symm
    case trans =>
      intro graph other third same next
      have first := graph.property.sameStructure_iff.mp same
      exact graph.property.sameStructure_iff.mpr
        (first.trans (other.property.sameStructure_iff.mp next))
  case reordered =>
    intro graph other moved otherMoved distinct _ left right
    rw [Bool.eq_iff_iff, distinct.sameStructure_iff, (distinct.reorder left).sameStructure_iff]
    constructor
    · intro rearranges
      exact rearranges.reorder ⟨left.nodes.symm, left.edges.symm⟩
        ⟨right.nodes.symm, right.edges.symm⟩
    · exact fun rearranges => rearranges.reorder left right

/-- Two nodes and two edges the other way round, with a zero of the other sign. -/
theorem sameStructure_turned :
    let node (id : String) (x : Binary64) : Node := ⟨id, "constant", ⟨x, 0.0⟩, "Constant", .empty⟩
    let edge (source target : String) : Edge := Connection.edge ⟨source, none, target, some "a"⟩
    let graph : Graph := ⟨[node "n" 0.0, node "m" 1.0], [edge "n" "m", edge "m" "n"]⟩
    let other : Graph := ⟨[node "m" 1.0, node "n" (-0.0)], [edge "m" "n", edge "n" "m"]⟩
    graph.Distinct ∧ other.Distinct ∧ graph.sameStructure other = true ∧
      graph.Rearranges other ∧ other.sameStructure graph = true ∧ (graph == other) = false ∧
      ∃ moved, graph.Reorders moved ∧ (moved == graph) = false ∧
        moved.sameStructure other = graph.sameStructure other := by
  intro node edge graph other
  have distinct : graph.Distinct := by decide +kernel
  have otherDistinct : other.Distinct := by decide +kernel
  have same : graph.sameStructure other = true := by decide +kernel
  obtain ⟨rearranges, equivalence, reordered⟩ := sameStructure_equivalence
  have moved : graph.Reorders ⟨graph.nodes.reverse, graph.edges⟩ :=
    ⟨(List.reverse_perm _).symm, .refl _⟩
  refine ⟨distinct, otherDistinct, same, ?_, ?_, by decide +kernel, _, moved, by decide +kernel, ?_⟩
  · exact (rearranges graph other distinct otherDistinct).mp same
  · exact equivalence.symm (x := ⟨graph, distinct⟩) (y := ⟨other, otherDistinct⟩) same
  · exact reordered graph other _ other distinct otherDistinct moved ⟨.refl _, .refl _⟩

end Graph

end SignalGraph
