import SignalGraph.Proofs.Graph.Cycles

/-! The loose ends of a graph: nodes that feed no output, and declared inputs that nothing enters.

Both are told node by node, after the cycles. A node feeds an output if some walk, perhaps one
without steps, leads to a terminal node. Nodes of unknown kinds declare nothing.
-/

set_option autoImplicit false

namespace SignalGraph

open Relation

namespace Diagnostic

def unreachable? : Diagnostic → Option String
  | unreachable node => some node
  | cycle _ => none
  | unwiredInput _ _ => none

def unwiredInput? : Diagnostic → Option (String × Option String)
  | unwiredInput node handle => some (node, handle)
  | cycle _ => none
  | unreachable _ => none

end Diagnostic

namespace Graph

variable {graph : Graph} {catalog : Catalog} {id : String} {handle : Option String}

def FeedsOutput (catalog : Catalog) (graph : Graph) (id : String) : Prop :=
  ∃ output ∈ graph.nodes, catalog.isTerminal output.kind = true ∧
    ReflTransGen graph.Feeds id output.id

/-- Some edge enters the handle, wherever it comes from. -/
def Wired (graph : Graph) (id : String) (handle : Option String) : Prop :=
  ∃ edge ∈ graph.edges, edge.target = id ∧ edge.targetHandle = handle

instance : Decidable (graph.Wired id handle) :=
  inferInstanceAs (Decidable (∃ edge ∈ graph.edges, edge.target = id ∧ edge.targetHandle = handle))

/-- The inputs that the nodes declare by their kinds, each with its node. -/
def declaredInputs (catalog : Catalog) (graph : Graph) : List (String × Option String) :=
  graph.nodes.flatMap fun node =>
    match catalog.handles? node.kind with
    | some handles => handles.inputs.map fun input => (node.id, input.id)
    | none => []

/-- The declared inputs that nothing enters. -/
def unwired (catalog : Catalog) (graph : Graph) : List (String × Option String) :=
  (graph.declaredInputs catalog).filter fun (id, handle) => ¬graph.Wired id handle

theorem mem_declaredInputs_iff : (id, handle) ∈ graph.declaredInputs catalog ↔
    ∃ node ∈ graph.nodes, node.id = id ∧
      ∃ handles, catalog.handles? node.kind = some handles ∧
        ∃ input ∈ handles.inputs, input.id = handle := by
  rw [declaredInputs, List.mem_flatMap]
  refine exists_congr fun node => and_congr_right fun _ => ?_
  cases resolved : catalog.handles? node.kind with
  | none => simp
  | some handles =>
    simp only [List.mem_map, Prod.mk.injEq, Option.some.injEq, exists_eq_left']
    constructor
    · rintro ⟨input, declared, same, rfl⟩
      exact ⟨same, input, declared, rfl⟩
    · rintro ⟨same, input, declared, rfl⟩
      exact ⟨input, declared, same, rfl⟩

/-! ## What is told -/

theorem any_leadsTo_iff :
    (graph.terminalIds catalog).any (graph.links.leadsTo id) = true ↔
      graph.FeedsOutput catalog id := by
  simp only [terminalIds, List.any_map, List.any_filter, List.any_eq_true, Function.comp_apply,
    Bool.and_eq_true, leadsTo_iff, FeedsOutput]

theorem mem_unreachable_iff : id ∈ graph.unreachable catalog graph.links ↔
    ∃ node ∈ graph.nodes, node.id = id ∧ catalog.isTerminal node.kind = false ∧
      ¬graph.FeedsOutput catalog id := by
  rw [unreachable, List.mem_map]
  refine exists_congr fun node => ?_
  rw [List.mem_filter, Bool.and_eq_true, Bool.not_eq_true', Bool.not_eq_true', ← Bool.not_eq_true,
    ← Bool.not_eq_true, any_leadsTo_iff]
  constructor
  · rintro ⟨⟨member, apart, lost⟩, rfl⟩
    exact ⟨member, rfl, apart, lost⟩
  · rintro ⟨member, rfl, apart, lost⟩
    exact ⟨⟨member, apart, lost⟩, rfl⟩

theorem unreachable_sublist (graph : Graph) (catalog : Catalog) :
    (graph.unreachable catalog graph.links).Sublist graph.nodeIds :=
  List.filter_sublist.map _

theorem isEmpty_edgesInto_eq :
    (graph.edgesInto id handle).isEmpty = decide (¬graph.Wired id handle) := by
  rw [Bool.eq_iff_iff, List.isEmpty_iff, decide_eq_true_iff, edgesInto, List.filter_eq_nil_iff]
  simp [Wired]

theorem flatMap_unwiredInputs (graph : Graph) (catalog : Catalog) :
    (graph.nodes.flatMap fun node =>
        (graph.unwiredInputs catalog node).map fun input => (node.id, input.id)) =
      graph.unwired catalog := by
  rw [unwired, declaredInputs, List.filter_flatMap]
  congr 1
  funext node
  cases resolved : catalog.handles? node.kind with
  | none => simp [unwiredInputs, resolved]
  | some handles =>
    simp [unwiredInputs, resolved, List.filter_map, Function.comp_def, isEmpty_edgesInto_eq]

theorem filterMap_unreachable?_diagnose (graph : Graph) (catalog : Catalog) :
    (graph.diagnose catalog).filterMap Diagnostic.unreachable? =
      graph.unreachable catalog graph.links := by
  simp [diagnose, List.filterMap_append, List.filterMap_map, List.filterMap_flatMap,
    Function.comp_def, Diagnostic.unreachable?]

theorem filterMap_unwiredInput?_diagnose (graph : Graph) (catalog : Catalog) :
    (graph.diagnose catalog).filterMap Diagnostic.unwiredInput? = graph.unwired catalog := by
  rw [← flatMap_unwiredInputs]
  simp [diagnose, List.filterMap_append, List.filterMap_map, List.filterMap_flatMap,
    Function.comp_def, Diagnostic.unwiredInput?]

/-- Cycles, nodes and inputs are told in this order. -/
theorem diagnose_parts (graph : Graph) (catalog : Catalog) :
    graph.diagnose catalog =
      ((graph.diagnose catalog).filterMap Diagnostic.cycle?).map .cycle ++
      ((graph.diagnose catalog).filterMap Diagnostic.unreachable?).map .unreachable ++
      ((graph.diagnose catalog).filterMap Diagnostic.unwiredInput?).map fun (node, handle) =>
        .unwiredInput node handle := by
  rw [filterMap_cycle?_diagnose, filterMap_unreachable?_diagnose,
    filterMap_unwiredInput?_diagnose, ← flatMap_unwiredInputs, diagnose]
  simp [List.map_flatMap, Function.comp_def]

theorem cycles_eq_nil_iff : graph.links.cycles = [] ↔ ∀ id, ¬TransGen graph.Feeds id id := by
  constructor
  · intro none id walk
    obtain ⟨ids, listed, -⟩ := exists_mem_cycles_iff.mpr walk
    exact List.not_mem_nil (none ▸ listed)
  · intro acyclic
    refine List.eq_nil_iff_forall_not_mem.mpr fun ids listed => ?_
    obtain ⟨-, ⟨root, component⟩, -⟩ := mem_cycles_iff.mp listed
    exact acyclic root (exists_mem_cycles_iff.mp ⟨ids, listed, component.root_mem⟩)

theorem unreachable_eq_nil_iff : graph.unreachable catalog graph.links = [] ↔
    ∀ node ∈ graph.nodes,
      catalog.isTerminal node.kind = true ∨ graph.FeedsOutput catalog node.id := by
  simp only [List.eq_nil_iff_forall_not_mem, mem_unreachable_iff]
  constructor
  · intro none node member
    by_contra lost
    rw [not_or, Bool.not_eq_true] at lost
    exact none node.id ⟨node, member, rfl, lost⟩
  · rintro all id ⟨node, member, rfl, apart, lost⟩
    rcases all node member with terminal | feeds
    · exact Bool.noConfusion (terminal.symm.trans apart)
    · exact lost feeds

theorem unwired_eq_nil_iff : graph.unwired catalog = [] ↔
    ∀ node ∈ graph.nodes, ∀ handles, catalog.handles? node.kind = some handles →
      ∀ input ∈ handles.inputs, graph.Wired node.id input.id := by
  simp only [unwired, List.filter_eq_nil_iff, decide_eq_true_iff, not_not]
  constructor
  · intro wired node member handles resolved input declared
    exact wired (node.id, input.id)
      (mem_declaredInputs_iff.mpr ⟨node, member, rfl, handles, resolved, input, declared, rfl⟩)
  · rintro wired ⟨id, handle⟩ declared
    obtain ⟨node, member, rfl, handles, resolved, input, listed, rfl⟩ :=
      mem_declaredInputs_iff.mp declared
    exact wired node member handles resolved input listed

/-- What is told of the nodes and their inputs, and when nothing is told. -/
structure TellsLooseEnds (catalog : Catalog) (graph : Graph) (diagnostics : List Diagnostic) :
    Prop where
  /-- Cycles, nodes and inputs are told in this order. -/
  parts : diagnostics = (diagnostics.filterMap Diagnostic.cycle?).map .cycle ++
    (diagnostics.filterMap Diagnostic.unreachable?).map .unreachable ++
    (diagnostics.filterMap Diagnostic.unwiredInput?).map fun (node, handle) =>
      .unwiredInput node handle
  unreachable_sublist : (diagnostics.filterMap Diagnostic.unreachable?).Sublist graph.nodeIds
  unreachable_nodup : (diagnostics.filterMap Diagnostic.unreachable?).Nodup
  mem_unreachable_iff : ∀ id, id ∈ diagnostics.filterMap Diagnostic.unreachable? ↔
    ∃ node ∈ graph.nodes, node.id = id ∧ catalog.isTerminal node.kind = false ∧
      ¬graph.FeedsOutput catalog id
  unwiredInputs_eq : diagnostics.filterMap Diagnostic.unwiredInput? = graph.unwired catalog
  eq_nil_iff : diagnostics = [] ↔
    (∀ id, ¬TransGen graph.Feeds id id) ∧
    (∀ node ∈ graph.nodes,
      catalog.isTerminal node.kind = true ∨ graph.FeedsOutput catalog node.id) ∧
    ∀ node ∈ graph.nodes, ∀ handles, catalog.handles? node.kind = some handles →
      ∀ input ∈ handles.inputs, graph.Wired node.id input.id

theorem diagnose_tellsLooseEnds (catalog : Catalog) (distinct : graph.nodeIds.Nodup) :
    graph.TellsLooseEnds catalog (graph.diagnose catalog) := by
  refine ⟨graph.diagnose_parts catalog, ?_, ?_, ?_, graph.filterMap_unwiredInput?_diagnose catalog,
    ?_⟩
  · rw [filterMap_unreachable?_diagnose]
    exact graph.unreachable_sublist catalog
  · rw [filterMap_unreachable?_diagnose]
    exact distinct.sublist (graph.unreachable_sublist catalog)
  · intro id
    rw [filterMap_unreachable?_diagnose, mem_unreachable_iff]
  · rw [diagnose_parts, List.append_eq_nil_iff, List.append_eq_nil_iff, List.map_eq_nil_iff,
      List.map_eq_nil_iff, List.map_eq_nil_iff, filterMap_cycle?_diagnose,
      filterMap_unreachable?_diagnose, filterMap_unwiredInput?_diagnose, cycles_eq_nil_iff,
      unreachable_eq_nil_iff, unwired_eq_nil_iff, and_assoc]

/-- A round of two nodes, a node of unknown kind, two outputs and edges with a missing end. The
edge that comes from nowhere still enters its handle. -/
theorem diagnose_tellsLooseEnds_dangling :
    let node (id kind : String) : Node := ⟨id, kind, ⟨0.0, 0.0⟩, kind, .empty⟩
    let edge (source target : String) (handle : Option String) : Edge :=
      Connection.edge ⟨source, none, target, handle⟩
    let graph : Graph :=
      ⟨[node "loop" "and", node "round" "and", node "below" "less_than", node "mystery" "unknown",
        node "stop" "signal_output", node "end" "signal_output"],
        [edge "loop" "round" none, edge "round" "loop" none, edge "gone" "below" (some "a"),
          edge "below" "end" none, edge "loop" "gone" none]⟩
    graph.nodeIds.Nodup ∧
      (graph.diagnose .builtIn).filterMap Diagnostic.unwiredInput? =
        [("below", some "b"), ("stop", none)] ∧
      graph.TellsLooseEnds .builtIn (graph.diagnose .builtIn) := by
  intro node edge graph
  have distinct : graph.nodeIds.Nodup := by decide +kernel
  have tells := diagnose_tellsLooseEnds .builtIn distinct
  refine ⟨distinct, ?_, tells⟩
  rw [tells.unwiredInputs_eq]
  decide +kernel

end Graph

end SignalGraph
