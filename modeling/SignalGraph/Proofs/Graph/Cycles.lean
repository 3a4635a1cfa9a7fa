import SignalGraph.Graph.Diagnosis
import SignalGraph.Proofs.Graph.Walk
import SignalGraph.Proofs.Graph.Wiring
import Mathlib.Data.List.Perm.Subperm

/-! The cycles of a graph.

A component is a node with all nodes that it leads to and that lead to it. Searches find the
components, and one is reported when walks within it come back to where they started. Where the
nodes can be sorted nothing is looked for, and nothing would be found.
-/

set_option autoImplicit false

namespace SignalGraph

open Relation

namespace Graph

variable {graph : Graph} {catalog : Catalog} {root first second id : String} {ids : List String}

/-- An edge joins two nodes. Where one of its ends is no node it joins nothing. -/
def Feeds (graph : Graph) (first second : String) : Prop :=
  first ∈ graph.nodeIds ∧ second ∈ graph.nodeIds ∧
    ∃ edge ∈ graph.edges, edge.source = first ∧ edge.target = second

theorem Feeds.mem_of_path (path : ReflTransGen graph.Feeds first second)
    (member : first ∈ graph.nodeIds) : second ∈ graph.nodeIds := by
  cases path with
  | refl => exact member
  | tail _ last => exact last.2.1

/-! ## Links -/

theorem mem_ids_iff : id ∈ graph.ids ↔ id ∈ graph.nodeIds := by
  simp [ids, nodeIds]

theorem ids_nodup (graph : Graph) : graph.ids.Nodup :=
  List.nodup_reverse.mpr (nodup_eraseDups _)

theorem step_links_iff :
    Walk.Step graph.links.successors.row first second ↔ graph.Feeds first second := by
  have row : graph.links.successors.row first =
      if first ∈ graph.ids then graph.successors graph.ids first else [] :=
    Walk.Table.row_of ..
  rw [Walk.Step, row]
  by_cases member : first ∈ graph.ids
  · simp only [if_pos member, successors, List.mem_filter, List.mem_map, List.mem_reverse,
      decide_eq_true_eq]
    rw [mem_ids_iff] at member
    constructor
    · rintro ⟨⟨edge, ⟨drawn, source⟩, target⟩, listed⟩
      exact ⟨member, mem_ids_iff.mp listed, edge, drawn, source, target⟩
    · rintro ⟨-, listed, edge, drawn, source, target⟩
      exact ⟨⟨edge, ⟨drawn, source⟩, target⟩, mem_ids_iff.mpr listed⟩
  · rw [if_neg member]
    constructor
    · exact fun listed => absurd listed List.not_mem_nil
    · exact fun feeds => absurd (mem_ids_iff.mpr feeds.1) member

theorem step_links : Walk.Step graph.links.successors.row = graph.Feeds := by
  funext first second
  exact propext step_links_iff

theorem among_links : Walk.Among graph.links.successors.row graph.ids := by
  intro first second step
  obtain ⟨source, target, -⟩ := step_links_iff.mp step
  exact ⟨mem_ids_iff.mpr source, mem_ids_iff.mpr target⟩

theorem mem_descendants_iff :
    second ∈ graph.links.descendants.row first ↔ TransGen graph.Feeds first second := by
  have row : graph.links.descendants.row first =
      if first ∈ graph.ids then
        Walk.descendants graph.links.successors.row graph.ids first else [] :=
    Walk.Table.row_of ..
  rw [row]
  by_cases member : first ∈ graph.ids
  · rw [if_pos member, Walk.mem_descendants_iff among_links, step_links]
  · rw [if_neg member]
    constructor
    · exact fun listed => absurd listed List.not_mem_nil
    · intro path
      obtain ⟨next, step, -⟩ := TransGen.head'_iff.mp path
      exact absurd (mem_ids_iff.mpr step.1) member

theorem leadsTo_iff :
    graph.links.leadsTo first second = true ↔ ReflTransGen graph.Feeds first second := by
  simp only [Links.leadsTo, Bool.or_eq_true, decide_eq_true_eq, mem_descendants_iff,
    reflTransGen_iff_eq_or_transGen]

theorem together_iff : graph.links.together first second = true ↔
    ReflTransGen graph.Feeds first second ∧ ReflTransGen graph.Feeds second first := by
  rw [Links.together, Bool.and_eq_true, leadsTo_iff, leadsTo_iff]

theorem together_refl (graph : Graph) (id : String) : graph.links.together id id = true :=
  together_iff.mpr ⟨.refl, .refl⟩

theorem together_symm (joined : graph.links.together first second = true) :
    graph.links.together second first = true :=
  together_iff.mpr (together_iff.mp joined).symm

theorem together_trans {third : String} (before : graph.links.together first second = true)
    (after : graph.links.together second third = true) :
    graph.links.together first third = true := by
  rw [together_iff] at *
  exact ⟨before.1.trans after.1, after.2.trans before.2⟩

/-- The ids can be sorted just when no walk comes back to its start. -/
theorem sort?_links_isSome_iff :
    (Walk.sort? graph.links.successors.row graph.links.ids).isSome = true ↔
      ∀ id, ¬TransGen graph.Feeds id id := by
  rw [← step_links]
  exact Walk.sort?_isSome_iff graph.ids_nodup among_links

/-! ## Components -/

/-- The ids are all those that the root leads to and that lead to it. -/
def IsComponent (graph : Graph) (root : String) (ids : List String) : Prop :=
  root ∈ graph.nodeIds ∧
    ∀ id, id ∈ ids ↔ ReflTransGen graph.Feeds root id ∧ ReflTransGen graph.Feeds id root

/-- There are several ids, or one has an edge to itself. -/
def Turns (graph : Graph) (ids : List String) : Prop :=
  1 < ids.length ∨ ∃ id ∈ ids, graph.Feeds id id

namespace IsComponent

theorem root_mem (component : graph.IsComponent root ids) : root ∈ ids :=
  (component.2 root).mpr ⟨.refl, .refl⟩

theorem perm (component : graph.IsComponent root ids) {others : List String}
    (permuted : ids.Perm others) : graph.IsComponent root others :=
  ⟨component.1, fun id => permuted.mem_iff.symm.trans (component.2 id)⟩

/-- Any of the ids will do for the root. -/
theorem reroot (component : graph.IsComponent root ids) (member : id ∈ ids) :
    graph.IsComponent id ids := by
  obtain ⟨fromRoot, toRoot⟩ := (component.2 id).mp member
  refine ⟨Feeds.mem_of_path fromRoot component.1, fun other => ?_⟩
  rw [component.2 other]
  constructor
  · exact fun ⟨fore, back⟩ => ⟨toRoot.trans fore, back.trans fromRoot⟩
  · exact fun ⟨fore, back⟩ => ⟨fromRoot.trans fore, back.trans toRoot⟩

/-- A component turns just when a walk leads from the root back to it. -/
theorem turns_iff (component : graph.IsComponent root ids) (distinct : ids.Nodup) :
    graph.Turns ids ↔ TransGen graph.Feeds root root := by
  constructor
  · rintro (several | ⟨id, member, loop⟩)
    · obtain ⟨other, member, different⟩ : ∃ other ∈ ids, other ≠ root := by
        by_contra none
        have subset : ids ⊆ [root] := by
          intro id member
          by_contra different
          exact none ⟨id, member, by simpa using different⟩
        have short := (distinct.subperm subset).length_le
        simp only [List.length_singleton] at short
        omega
      obtain ⟨fore, back⟩ := (component.2 other).mp member
      rcases reflTransGen_iff_eq_or_transGen.mp fore with same | walk
      · exact absurd same different
      · exact walk.trans_left back
    · obtain ⟨fore, back⟩ := (component.2 id).mp member
      exact (TransGen.tail' fore loop).trans_left back
  · intro walk
    obtain ⟨next, step, back⟩ := TransGen.head'_iff.mp walk
    have member := (component.2 next).mpr ⟨.single step, back⟩
    by_cases same : next = root
    · exact .inr ⟨root, component.root_mem, same ▸ step⟩
    · refine .inl ?_
      have pair : [next, root].Nodup := by simp [same]
      have listed : [next, root] ⊆ ids := by simp [member, component.root_mem]
      exact (pair.subperm listed).length_le

end IsComponent

theorem isComponent_filter (member : root ∈ graph.nodeIds) :
    graph.IsComponent root (graph.links.ids.filter (graph.links.together root)) := by
  refine ⟨member, fun id => ?_⟩
  rw [List.mem_filter, together_iff]
  constructor
  · exact And.right
  · exact fun mutually => ⟨mem_ids_iff.mpr (Feeds.mem_of_path mutually.1 member), mutually⟩

theorem isCyclic_iff : graph.links.isCyclic ids = true ↔ graph.Turns ids := by
  unfold Links.isCyclic Turns
  match ids with
  | [] => simp
  | [id] =>
    have loop : id ∈ graph.links.successors.row id ↔ graph.Feeds id id := step_links_iff
    simp [loop]
  | id :: other :: rest => simp

/-- The components of a graph are listed, and none of them twice. -/
structure ListsComponents (graph : Graph) (components : List (List String)) : Prop where
  distinct : ∀ ids ∈ components, ids.Nodup
  component : ∀ ids ∈ components, ∃ root, graph.IsComponent root ids
  listed : ∀ id ∈ graph.nodeIds, ∃ ids ∈ components, id ∈ ids
  disjoint : components.Pairwise List.Disjoint

theorem components_listed (graph : Graph) : graph.ListsComponents graph.links.components := by
  have order : (Walk.finishOrder graph.links.successors.row graph.links.ids).Perm graph.ids :=
    Walk.finishOrder_perm graph.ids_nodup
  have isRoot : ∀ root ∈ Walk.roots graph.links.together
      (Walk.finishOrder graph.links.successors.row graph.links.ids), root ∈ graph.nodeIds :=
    fun root member => mem_ids_iff.mp (order.mem_iff.mp (Walk.roots_sublist.subset member))
  refine ⟨?_, ?_, ?_, ?_⟩
  · intro ids member
    obtain ⟨root, -, rfl⟩ := List.mem_map.mp member
    exact graph.ids_nodup.filter _
  · intro ids member
    obtain ⟨root, found, rfl⟩ := List.mem_map.mp member
    exact ⟨root, isComponent_filter (isRoot root found)⟩
  · intro id member
    have finished := order.mem_iff.mpr (mem_ids_iff.mpr member)
    obtain ⟨root, found, together⟩ := Walk.exists_root graph.together_refl
      (fun _ _ _ before after => together_trans before after) finished
    refine ⟨_, List.mem_map_of_mem found, ?_⟩
    exact ((isComponent_filter (isRoot root found)).2 id).mpr (together_iff.mp together).symm
  · refine List.pairwise_map.mpr (Walk.roots_pairwise.imp ?_)
    intro first second apart id here there
    -- Through a common id, one root would lead to the other.
    have joined := together_trans (List.mem_filter.mp here).2
      (together_symm (List.mem_filter.mp there).2)
    rw [joined] at apart
    exact Bool.noConfusion apart

/-! ## Reports -/

theorem cycles_eq (graph : Graph) : graph.links.cycles =
    (graph.links.components.filter graph.links.isCyclic).map fun component =>
      component.mergeSort fun first second => decide (first ≤ second) := by
  unfold Links.cycles
  split
  case isFalse => rfl
  case isTrue sorted =>
    have acyclic := sort?_links_isSome_iff.mp sorted
    have none : graph.links.components.filter graph.links.isCyclic = [] := by
      rw [List.filter_eq_nil_iff]
      intro ids listed turns
      obtain ⟨root, component⟩ := graph.components_listed.component ids listed
      have distinct := graph.components_listed.distinct ids listed
      exact acyclic root ((component.turns_iff distinct).mp (isCyclic_iff.mp turns))
    rw [none, List.map_nil]

theorem mem_cycles_iff : ids ∈ graph.links.cycles ↔
    ids.Pairwise (· < ·) ∧ (∃ root, graph.IsComponent root ids) ∧ graph.Turns ids := by
  have listed := graph.components_listed
  rw [cycles_eq]
  constructor
  · intro reported
    obtain ⟨component, kept, rfl⟩ := List.mem_map.mp reported
    obtain ⟨member, turns⟩ := List.mem_filter.mp kept
    have distinct := listed.distinct component member
    have permuted := List.mergeSort_perm component fun first second => decide (first ≤ second)
    obtain ⟨root, isComponent⟩ := listed.component component member
    have sorted := isComponent.perm permuted.symm
    refine ⟨ascending_mergeSort distinct, ⟨root, sorted⟩, ?_⟩
    rw [sorted.turns_iff (permuted.nodup_iff.mpr distinct), ← isComponent.turns_iff distinct]
    exact isCyclic_iff.mp turns
  · rintro ⟨ascending, ⟨root, isComponent⟩, turns⟩
    -- The component that has the root is this one, up to order.
    obtain ⟨component, member, holds⟩ := listed.listed root isComponent.1
    have distinct := listed.distinct component member
    obtain ⟨other, found⟩ := listed.component component member
    have rooted := found.reroot holds
    refine List.mem_map.mpr ⟨component, List.mem_filter.mpr ⟨member, ?_⟩, ?_⟩
    · rw [isCyclic_iff, rooted.turns_iff distinct, 
        ← isComponent.turns_iff (nodup_of_ascending ascending)]
      exact turns
    · refine eq_of_ascending (ascending_mergeSort distinct) ascending fun id => ?_
      rw [List.mem_mergeSort, rooted.2, isComponent.2]

theorem exists_mem_cycles_iff :
    (∃ ids ∈ graph.links.cycles, id ∈ ids) ↔ TransGen graph.Feeds id id := by
  constructor
  · rintro ⟨ids, member, holds⟩
    obtain ⟨ascending, ⟨root, component⟩, turns⟩ := mem_cycles_iff.mp member
    exact ((component.reroot holds).turns_iff (nodup_of_ascending ascending)).mp turns
  · intro walk
    obtain ⟨next, step, -⟩ := TransGen.head'_iff.mp walk
    have listed := graph.components_listed
    obtain ⟨component, member, holds⟩ := listed.listed id step.1
    obtain ⟨root, found⟩ := listed.component component member
    have turns := ((found.reroot holds).turns_iff (listed.distinct component member)).mpr walk
    refine ⟨component.mergeSort fun first second => decide (first ≤ second), ?_,
      List.mem_mergeSort.mpr holds⟩
    rw [cycles_eq]
    exact List.mem_map_of_mem (List.mem_filter.mpr ⟨member, isCyclic_iff.mpr turns⟩)

theorem cycles_disjoint (graph : Graph) : graph.links.cycles.Pairwise List.Disjoint := by
  rw [cycles_eq]
  refine List.pairwise_map.mpr ((graph.components_listed.disjoint.filter _).imp ?_)
  intro first second apart id here there
  exact apart (List.mem_mergeSort.mp here) (List.mem_mergeSort.mp there)

end Graph

namespace Diagnostic

/-- The ids of a reported cycle. -/
def cycle? : Diagnostic → Option (List String)
  | cycle ids => some ids
  | unreachable _ => none
  | unwiredInput _ _ => none

end Diagnostic

namespace Graph

theorem filterMap_cycle?_diagnose (graph : Graph) (catalog : Catalog) :
    (graph.diagnose catalog).filterMap Diagnostic.cycle? = graph.links.cycles := by
  simp [diagnose, List.filterMap_append, List.filterMap_map, List.filterMap_flatMap,
    Function.comp_def, Diagnostic.cycle?]

/-- The reported cycles are the components in which walks turn, each told once by its sorted ids.
So the nodes on cycles are just those that they tell, and none is told twice. -/
structure TellsCycles (graph : Graph) (cycles : List (List String)) : Prop where
  mem_iff : ∀ ids, ids ∈ cycles ↔
    ids.Pairwise (· < ·) ∧ (∃ root, graph.IsComponent root ids) ∧ graph.Turns ids
  nodup : cycles.Nodup
  disjoint : cycles.Pairwise List.Disjoint
  onCycle_iff : ∀ id, (∃ ids ∈ cycles, id ∈ ids) ↔ TransGen graph.Feeds id id
  /-- Where the nodes are sorted, so that nothing is looked for, there is no cycle. -/
  sorted_iff : (Walk.sort? graph.links.successors.row graph.links.ids).isSome = true ↔
    ∀ id, ¬TransGen graph.Feeds id id

theorem diagnose_tellsCycles (graph : Graph) (catalog : Catalog) :
    graph.TellsCycles ((graph.diagnose catalog).filterMap Diagnostic.cycle?) := by
  rw [filterMap_cycle?_diagnose]
  refine ⟨fun ids => mem_cycles_iff, ?_, graph.cycles_disjoint, fun id => exists_mem_cycles_iff,
    sort?_links_isSome_iff⟩
  refine graph.cycles_disjoint.imp_of_mem ?_
  rintro first _ member - apart rfl
  obtain ⟨-, ⟨root, component⟩, -⟩ := mem_cycles_iff.mp member
  exact apart component.root_mem component.root_mem

end Graph

end SignalGraph
