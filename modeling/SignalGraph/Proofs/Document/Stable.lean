import SignalGraph.Proofs.Document.Restore
import SignalGraph.Proofs.KeyMap

/-! Graphs that an import takes over unchanged, and that every import gives such a graph.

`Restorable` lists what saving and importing must find: ids that are not empty, parameters that
already hold the defaults, labels that an import keeps, and handles that are none or named.
-/

set_option autoImplicit false

namespace SignalGraph

variable {catalog : Catalog} {settings : Settings}

/-- An import reads the parameters and the label of the node as they are. -/
structure Node.Restorable (catalog : Catalog) (node : Node) : Prop where
  id_ne_empty : node.id ≠ ""
  defaults : (catalog.defaults node.kind).union node.parameters = node.parameters
  label : SavedGraph.importedLabel catalog node.save node.parameters = node.label

/-- No handle of the edge has an empty name. -/
structure Edge.Restorable (edge : Edge) : Prop where
  source : edge.sourceHandle ≠ some ""
  target : edge.targetHandle ≠ some ""

structure Graph.Restorable (catalog : Catalog) (graph : Graph) : Prop where
  settled : graph.Settled catalog
  nodes : ∀ node ∈ graph.nodes, node.Restorable catalog
  edges : ∀ edge ∈ graph.edges, edge.Restorable

/-- The kinds in a graph that the catalog does not have, as a report lists them. -/
def Graph.unresolvedKinds (catalog : Catalog) (graph : Graph) : List String :=
  SavedGraph.sortedDistinct ((graph.nodes.map (·.kind)).filter fun kind => !catalog.contains kind)

namespace SavedGraph

/-! ## Saving and importing -/

theorem importNode_save {node : Node} (restorable : node.Restorable catalog) (index : Nat) :
    importNode catalog settings ⟨index, node.id, false, node.save⟩ = node := by
  have parameters : (catalog.defaults node.kind).union node.save.parameters = node.parameters :=
    restorable.defaults
  have label := restorable.label
  simp only [importNode, Node.save] at parameters label ⊢
  simp only [parameters, Option.getD_some, label]

theorem handle?_eq_self {handle : Option String} (named : handle ≠ some "") :
    handle? handle = handle := by
  cases handle with
  | none => rfl
  | some name =>
    have nonempty : name ≠ "" := fun empty => named (congrArg some empty)
    simp [handle?, nonempty]

theorem handle?_ne_empty (handle : Option String) : handle? handle ≠ some "" := by
  intro empty
  have nonempty := (Option.filter_eq_some_iff.mp empty).2
  simp at nonempty

theorem connection_save {edge : Edge} (restorable : edge.Restorable) :
    connection edge.save = edge.toConnection := by
  simp only [connection, Edge.save, handle?_eq_self restorable.source,
    handle?_eq_self restorable.target]

/-- Saved nodes keep the ids they have. -/
theorem map_identify_save {β : Type} {read : IdentifiedNode → β} {result : Node → β}
    (taken : List String) (index : Nat) {nodes : List Node}
    (named : ∀ node ∈ nodes, node.id ≠ "")
    (agree : ∀ node ∈ nodes, ∀ index, read ⟨index, node.id, false, node.save⟩ = result node) :
    (identify taken index (nodes.map Node.save)).map read = nodes.map result := by
  induction nodes generalizing index with
  | nil => rfl
  | cons node rest ih =>
    have given : givenId? node.save = some node.id := by
      simp [givenId?, Node.save, named node List.mem_cons_self]
    simp only [List.map_cons, identify, given, agree node List.mem_cons_self]
    rw [ih (index + 1) (fun other member => named other (List.mem_cons_of_mem node member))
      fun other member => agree other (List.mem_cons_of_mem node member)]

/-- Edges drawn anew in their order come out as they were: none displaces one before it. -/
theorem wire_save {nodes : List Node} {drawn rest : List Edge}
    (settled : Graph.Settled catalog ⟨nodes, drawn ++ rest⟩)
    (restorable : ∀ edge ∈ rest, edge.Restorable) :
    (wire catalog ⟨nodes, drawn⟩ (rest.map Edge.save)).graph = ⟨nodes, drawn ++ rest⟩ := by
  -- What is drawn already stays: the next edge displaces none of it.
  induction rest generalizing drawn with
  | nil => simp [wire]
  | cons edge rest ih =>
    have member : edge ∈ drawn ++ edge :: rest := List.mem_append_right _ List.mem_cons_self
    have admitted : Graph.rejection? ⟨nodes, drawn⟩ catalog edge.toConnection = none :=
      settled.admitted edge member
    have undisturbed : drawn.filter (fun earlier =>
        !Graph.displaces ⟨nodes, drawn⟩ catalog edge.toConnection earlier) = drawn :=
      settled.filter_displaces rfl
    have taken : Graph.connect ⟨nodes, drawn⟩ catalog edge.toConnection =
        .ok (edge, ⟨nodes, drawn ++ [edge]⟩) := by
      refine Graph.connect_eq_ok_iff.mpr ⟨admitted, settled.derived edge member, ?_⟩
      rw [undisturbed, ← settled.derived edge member]
    have source : ¬Graph.node? ⟨nodes, drawn⟩ edge.source = none := fun missing =>
      (Graph.node?_eq_none_iff _ _).mp missing (Graph.source_mem_nodeIds admitted)
    have target : ¬Graph.node? ⟨nodes, drawn⟩ edge.target = none := fun missing =>
      (Graph.node?_eq_none_iff _ _).mp missing (Graph.target_mem_nodeIds admitted)
    have step : wire catalog ⟨nodes, drawn⟩ ((edge :: rest).map Edge.save) =
        wire catalog ⟨nodes, drawn ++ [edge]⟩ (rest.map Edge.save) := by
      simp only [List.map_cons, wire, connection_save (restorable edge List.mem_cons_self), taken]
      simp [Edge.save, source, target]
    have regroup : drawn ++ edge :: rest = drawn ++ [edge] ++ rest := List.append_cons _ _ _
    rw [step, regroup]
    exact ih (regroup ▸ settled) fun other present =>
      restorable other (List.mem_cons_of_mem edge present)

section Saved

variable {graph : Graph} (distinct : graph.nodeIds.Nodup)
  (named : ∀ node ∈ graph.nodes, node.id ≠ "")
include distinct named

/-- An import keeps every node of a saved graph. -/
theorem splitDuplicates_save :
    splitDuplicates [] (identify (givenIds graph.save.nodes) 0 graph.save.nodes) =
      (identify (givenIds graph.save.nodes) 0 graph.save.nodes, []) := by
  have ids : (identify (givenIds graph.save.nodes) 0 graph.save.nodes).map (·.id) = graph.nodeIds :=
    map_identify_save _ _ named fun _ _ _ => rfl
  exact splitDuplicates_eq_self (ids ▸ distinct) fun _ _ => List.not_mem_nil

theorem map_kept_save {β : Type} {read : IdentifiedNode → β} {result : Node → β}
    (agree : ∀ node ∈ graph.nodes, ∀ index, read ⟨index, node.id, false, node.save⟩ = result node) :
    graph.save.kept.map read = graph.nodes.map result := by
  rw [kept, splitDuplicates_save distinct named]
  exact map_identify_save _ _ named agree

theorem duplicateIds_save : (graph.save.restore catalog settings).2.duplicateIds = [] := by
  simp only [restore, splitDuplicates_save distinct named, List.map_nil]

omit distinct in
theorem generatedIds_save : (graph.save.restore catalog settings).2.generatedIds = [] := by
  have unmade : (identify (givenIds graph.save.nodes) 0 graph.save.nodes).map (·.generated) =
      graph.nodes.map fun _ => false := map_identify_save _ _ named fun _ _ _ => rfl
  simp only [restore, List.map_eq_nil_iff, List.filter_eq_nil_iff]
  intro entry member made
  have marked := List.mem_map_of_mem (f := (·.generated)) member
  rw [unmade] at marked
  obtain ⟨-, -, unmarked⟩ := List.mem_map.mp marked
  exact Bool.noConfusion (unmarked.trans made)

/-- If all edges are admitted at the imported nodes, there is nothing to report but kinds. -/
theorem report_save
    (admitted : ∀ edge ∈ graph.edges,
      Graph.rejection? ⟨graph.save.kept.map (importNode catalog settings), []⟩ catalog
        (connection edge.save) = none) :
    (graph.save.restore catalog settings).2 =
      { unresolvedKinds := graph.unresolvedKinds catalog } := by
  have kinds : graph.save.kept.map (·.node.kind) = graph.nodes.map (·.kind) :=
    map_kept_save distinct named fun _ _ _ => rfl
  let start : Graph := ⟨graph.save.kept.map (importNode catalog settings), []⟩
  obtain ⟨dropped, rejected⟩ : (wire catalog start graph.save.edges).dropped = [] ∧
      (wire catalog start graph.save.edges).rejected = [] := by
    refine wire_admitted fun saved member => ?_
    obtain ⟨edge, present, rfl⟩ := List.mem_map.mp member
    exact admitted edge present
  rw [restore_report, dropped, rejected, kinds, duplicateIds_save distinct named,
    generatedIds_save named]
  rfl

end Saved

/-- Saving and importing give a restorable graph back, and nothing to report but its kinds. -/
theorem restore_save {graph : Graph} (restorable : graph.Restorable catalog) :
    graph.save.restore catalog settings =
      (graph, { unresolvedKinds := graph.unresolvedKinds catalog }) := by
  have distinct := restorable.settled.distinct
  have named : ∀ node ∈ graph.nodes, node.id ≠ "" := fun node member =>
    (restorable.nodes node member).id_ne_empty
  have nodes : graph.save.kept.map (importNode catalog settings) = graph.nodes.map id :=
    map_kept_save distinct named fun node member index =>
      importNode_save (restorable.nodes node member) index
  have wired : (wire catalog ⟨graph.nodes, []⟩ graph.save.edges).graph = graph :=
    wire_save restorable.settled restorable.edges
  refine Prod.ext ?_ (report_save distinct named fun edge member => ?_)
  · rw [restore_graph, nodes, List.map_id, wired]
  · rw [nodes, List.map_id, connection_save (restorable.edges edge member)]
    exact restorable.settled.admitted edge member

/-! ## Imported graphs -/

/-- The label that an import gives stays the same at the next one. -/
theorem importedLabel_again (saved : SavedNode) {again : SavedNode} {parameters : KeyMap Json}
    (kind : again.kind = saved.kind)
    (label : again.label = importedLabel catalog saved parameters) :
    importedLabel catalog again parameters = again.label := by
  -- A label may stay empty, where an entry of the catalog has no name.
  by_cases blank : again.label = ""
  · have unlabelled : saved.label = "" := by
      refine Decidable.byContradiction fun given => given ?_
      rw [blank, importedLabel, if_pos given] at label
      exact label.symm
    rw [label, importedLabel, importedLabel, if_neg (not_not_intro blank),
      if_neg (not_not_intro unlabelled), kind]
  · rw [importedLabel, if_pos blank]

theorem importNode_restorable {entry : IdentifiedNode} (named : entry.id ≠ "") :
    (importNode catalog settings entry).Restorable catalog where
  id_ne_empty := named
  defaults := by
    refine (KeyMap.union_eq_right_iff _ _).mpr fun key held => ?_
    exact KeyMap.contains_union_left _ held
  label := importedLabel_again entry.node rfl rfl

/-- Whatever is imported can be saved and imported again. -/
theorem restorable_restore (saved : SavedGraph) :
    (saved.restore catalog settings).1.Restorable catalog where
  settled := saved.restore_settled
  nodes node member := by
    rw [restore_nodes] at member
    obtain ⟨entry, kept, rfl⟩ := List.mem_map.mp member
    exact importNode_restorable (kept_id_ne_empty kept)
  edges edge member := by
    rcases mem_wire edge member with member | ⟨saved, rfl⟩
    · exact absurd member List.not_mem_nil
    · exact ⟨handle?_ne_empty _, handle?_ne_empty _⟩

theorem unresolvedKinds_restore (saved : SavedGraph) :
    (saved.restore catalog settings).1.unresolvedKinds catalog =
      (saved.restore catalog settings).2.unresolvedKinds := by
  rw [Graph.unresolvedKinds, restore_nodes, List.map_map, restore_report]
  rfl

end SavedGraph

/-- A draft comes back from its own document if its graph does. -/
theorem Draft.restore_document {draft : Draft} (restorable : draft.graph.Restorable catalog) :
    draft.document.restore catalog settings =
      (draft, { unresolvedKinds := draft.graph.unresolvedKinds catalog }) := by
  have graph : draft.document.graph.restore catalog settings =
      (draft.graph, { unresolvedKinds := draft.graph.unresolvedKinds catalog }) :=
    SavedGraph.restore_save restorable
  rw [Document.restore, graph]
  rfl

/-- What an import gives is a fixed point: exported and imported again, under whatever settings, it
is the same draft, and the second report repeats the unresolved kinds of the first and nothing
else. -/
theorem Document.restore_export_restore (document : Document) (catalog : Catalog)
    (settings later : Settings) :
    (document.restore catalog settings).1.document.restore catalog later =
      ((document.restore catalog settings).1,
        { droppedEdges := [], rejectedEdges := [], duplicateIds := [], generatedIds := []
          unresolvedKinds := (document.restore catalog settings).2.unresolvedKinds }) := by
  have kinds : (document.restore catalog settings).1.graph.unresolvedKinds catalog =
      (document.restore catalog settings).2.unresolvedKinds :=
    SavedGraph.unresolvedKinds_restore document.graph
  rw [Draft.restore_document (SavedGraph.restorable_restore document.graph), kinds]

end SignalGraph
