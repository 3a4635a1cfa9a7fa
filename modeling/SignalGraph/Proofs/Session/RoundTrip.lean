import SignalGraph.Proofs.Catalog.BuiltIn
import SignalGraph.Proofs.Document.Stable
import SignalGraph.Proofs.Session.Graphs

/-! Exporting the draft of a session and importing it again, over a catalog in which every kind has
a name, such as the built-in one.

Nothing is left out and nothing is made up. But a node added with an empty kind has an empty label,
which an import replaces, and an edge at a node of an unknown kind may name a handle by the empty
text, which an import reads as none. Apart from these the draft comes back as it was.
-/

set_option autoImplicit false

namespace SignalGraph

variable {catalog : Catalog} {settings : Settings}

/-! ## Labels -/

theorem Title.ofCode?_ne_empty {code title : String} (declared : ofCode? code = some title) :
    title ≠ "" := by
  simpa using (Option.filter_eq_some_iff.mp declared).2

theorem Catalog.declaredTitle?_ne_empty {kind title : String} {parameters : KeyMap Json}
    (declared : declaredTitle? kind parameters = some title) : title ≠ "" := by
  obtain ⟨_, -, declared⟩ := Option.bind_eq_some_iff.mp declared
  obtain ⟨code, -, declared⟩ := Option.bind_eq_some_iff.mp declared
  obtain ⟨text, -, declared⟩ := Option.bind_eq_some_iff.mp declared
  exact Title.ofCode?_ne_empty declared

theorem Catalog.Named.initialLabel_ne_empty (named : catalog.Named) {kind : String}
    (other : kind ≠ "") (parameters : KeyMap Json) : catalog.initialLabel kind parameters ≠ "" := by
  unfold initialLabel
  cases declared : declaredTitle? kind parameters with
  | none => exact named.displayName_ne_empty other
  | some title => exact declaredTitle?_ne_empty declared

theorem Catalog.Named.kindLabel_ne_empty (named : catalog.Named) (kind : String) :
    catalog.kindLabel kind ≠ "" := by
  unfold kindLabel
  split
  · decide
  · rename_i other
    exact named.displayName_ne_empty other

theorem Node.labelAfter_ne_empty (named : catalog.Named) {node : Node}
    {values parameters : KeyMap Json} (labelled : node.label ≠ "") :
    node.labelAfter catalog values parameters ≠ "" := by
  unfold labelAfter
  split
  · rename_i script
    split
    · rename_i declared
      exact Title.ofCode?_ne_empty declared
    · split
      · rw [script.1]
        exact named.displayName_ne_empty (by decide)
      · exact labelled
  · exact labelled

theorem Node.withLabel_ne_empty (named : catalog.Named) (node : Node) (label : String) :
    (node.withLabel catalog label).label ≠ "" := by
  unfold withLabel
  split
  · exact named.kindLabel_ne_empty node.kind
  · rename_i shown
    rintro rfl
    exact shown (by decide)

theorem SavedGraph.importedLabel_ne_empty (named : catalog.Named) (node : SavedNode)
    (parameters : KeyMap Json) : importedLabel catalog node parameters ≠ "" := by
  unfold importedLabel
  split
  · assumption
  · split
    · decide
    · rename_i other
      exact named.initialLabel_ne_empty other parameters

/-! ## What every graph of a session keeps -/

/-- The node has an id and all parameters of its kind, and a label unless it is of no kind. -/
structure Node.Filled (catalog : Catalog) (node : Node) : Prop where
  id_ne_empty : node.id ≠ ""
  defaults : ∀ key, (catalog.defaults node.kind).contains key = true →
    node.parameters.contains key = true
  label : node.label = "" → node.kind = ""

structure Graph.Exportable (catalog : Catalog) (graph : Graph) : Prop where
  settled : graph.Settled catalog
  nodes : ∀ node ∈ graph.nodes, node.Filled catalog

/-- Entering values takes no parameter away. -/
theorem Node.contains_enter {node : Node} {values : KeyMap Json} {key : String}
    (held : node.parameters.contains key = true) :
    (node.enter catalog values).contains key = true := by
  refine KeyMap.contains_insertAll ?_ held
  exact List.pairwise_map.mpr values.ascending

theorem Node.filled_maintained {Made : String → Prop} {offset : Binary64} (named : catalog.Named)
    (made : ∀ id, Made id → id ≠ "") : Maintained Made catalog offset (Filled catalog) where
  added kind position new := by
    refine ⟨made _ new, fun _ held => held, fun blank => ?_⟩
    exact Decidable.byContradiction fun other => named.initialLabel_ne_empty other _ blank
  copied new filled := ⟨made _ new, filled.defaults, filled.label⟩
  entered {node} values filled := by
    refine ⟨filled.id_ne_empty, fun key held => contains_enter (filled.defaults key held), ?_⟩
    intro blank
    refine Decidable.byContradiction fun other => ?_
    have labelled : node.label ≠ "" := fun empty => other (filled.label empty)
    exact labelAfter_ne_empty named labelled blank
  moved position filled := ⟨filled.id_ne_empty, filled.defaults, filled.label⟩
  renamed {node} label filled :=
    ⟨filled.id_ne_empty, filled.defaults, fun blank =>
      absurd blank (withLabel_ne_empty named node label)⟩

theorem SavedGraph.importNode_filled (named : catalog.Named) {entry : IdentifiedNode}
    (identified : entry.id ≠ "") : (importNode catalog settings entry).Filled catalog where
  id_ne_empty := identified
  defaults _ held := KeyMap.contains_union_left _ held
  label blank := absurd blank (importedLabel_ne_empty named _ _)

theorem Graph.exportable_maintained {Made : Graph → String → Prop} (named : catalog.Named)
    (made : ∀ graph id, Made graph id → id ≠ "" ∧ id ∉ graph.nodeIds) :
    Maintained Made catalog settings (Exportable catalog) where
  empty := ⟨settled_empty, fun _ member => absurd member List.not_mem_nil⟩
  edited {graph _} exportable edited :=
    ⟨exportable.settled.edited (fun id new => (made graph id new).2) edited,
      edited.forall_nodes (Node.filled_maintained named fun id new => (made graph id new).1)
        exportable.nodes⟩
  restored saved := by
    refine ⟨saved.restore_settled, fun node member => ?_⟩
    rw [SavedGraph.restore_nodes] at member
    obtain ⟨entry, kept, rfl⟩ := List.mem_map.mp member
    exact SavedGraph.importNode_filled named (SavedGraph.kept_id_ne_empty kept)

theorem NodeId.ofRandom_ne_empty (random : Nat) : ofRandom random ≠ "" := by
  intro empty
  have longer := congrArg String.length empty
  simp [ofRandom] at longer

/-! ## There and back -/

/-- A handle that is declared has a name, so that it is not read as none. -/
theorem Catalog.Named.declaresInput_handle? (named : catalog.Named) {kind : String}
    {handles : Handles} {handle : Option String} (resolved : catalog.handles? kind = some handles)
    (declared : handles.declaresInput handle = true) :
    handles.declaresInput (SavedGraph.handle? handle) = true := by
  have shown : handle ≠ some "" := by
    rintro rfl
    rw [named.declaresInput_empty resolved] at declared
    exact Bool.noConfusion declared
  rw [SavedGraph.handle?_eq_self shown]
  exact declared

namespace Graph.Exportable

variable {graph : Graph} (exportable : graph.Exportable catalog)
include exportable

theorem id_ne_empty : ∀ node ∈ graph.nodes, node.id ≠ "" :=
  fun node member => (exportable.nodes node member).id_ne_empty

/-- The imported nodes stand for the kinds that the exported ones do. -/
theorem kind?_import (id : String) :
    kind? ⟨graph.save.kept.map (SavedGraph.importNode catalog settings), []⟩ id =
      graph.kind? id := by
  have kinds : graph.save.kept.map (fun entry => (entry.id, entry.node.kind)) =
      graph.nodes.map fun node => (node.id, node.kind) :=
    SavedGraph.map_kept_save exportable.settled.distinct exportable.id_ne_empty fun _ _ _ => rfl
  rw [kind?_eq_lookup, kind?_eq_lookup, ← kinds, List.map_map]
  rfl

theorem rejection?_import (named : catalog.Named) {edge : Edge} (member : edge ∈ graph.edges) :
    rejection? ⟨graph.save.kept.map (SavedGraph.importNode catalog settings), []⟩ catalog
      (SavedGraph.connection edge.save) = none := by
  obtain ⟨source, target, leaves, enters, different, declared, output⟩ :=
    (rejection?_eq_none_iff graph _).mp (exportable.settled.admitted edge member)
  refine (rejection?_eq_none_iff _ _).mpr ⟨source, target, ?_, ?_, different, ?_, ?_⟩
  · exact (exportable.kind?_import _).trans leaves
  · exact (exportable.kind?_import _).trans enters
  · exact fun handles resolved => named.declaresInput_handle? resolved (declared handles resolved)
  · intro handles resolved
    obtain ⟨hasOutput, anonymous⟩ := output handles resolved
    exact ⟨hasOutput, congrArg SavedGraph.handle? anonymous⟩

/-- An import of the export leaves nothing out and makes nothing up. -/
theorem report_eq (named : catalog.Named) :
    (graph.save.restore catalog settings).2 =
      { unresolvedKinds := graph.unresolvedKinds catalog } := by
  refine SavedGraph.report_save exportable.settled.distinct exportable.id_ne_empty ?_
  exact fun edge member => exportable.rejection?_import named member

theorem restorable (labelled : ∀ node ∈ graph.nodes, node.label ≠ "")
    (handles : ∀ edge ∈ graph.edges, edge.sourceHandle ≠ some "" ∧ edge.targetHandle ≠ some "") :
    graph.Restorable catalog where
  settled := exportable.settled
  nodes node member :=
    { id_ne_empty := exportable.id_ne_empty node member
      defaults := (KeyMap.union_eq_right_iff _ _).mpr (exportable.nodes node member).defaults
      label := if_pos (labelled node member) }
  edges edge member := ⟨(handles edge member).1, (handles edge member).2⟩

/-- The graph comes back unless a label or the name of a handle is empty. -/
theorem restore_eq_iff (named : catalog.Named) :
    (graph.save.restore catalog settings).1 = graph ↔
      (∀ node ∈ graph.nodes, node.label ≠ "") ∧
      ∀ edge ∈ graph.edges, edge.sourceHandle ≠ some "" ∧ edge.targetHandle ≠ some "" := by
  constructor
  · intro same
    constructor
    · intro node member
      rw [← same, SavedGraph.restore_nodes] at member
      obtain ⟨entry, -, rfl⟩ := List.mem_map.mp member
      exact SavedGraph.importedLabel_ne_empty named _ _
    · intro edge member
      have restorable : (graph.save.restore catalog settings).1.Restorable catalog :=
        SavedGraph.restorable_restore graph.save
      rw [same] at restorable
      exact ⟨(restorable.edges edge member).source, (restorable.edges edge member).target⟩
  · rintro ⟨labelled, handles⟩
    rw [SavedGraph.restore_save (exportable.restorable labelled handles)]

/-- Labels and handles can only be empty at nodes of kinds that the catalog does not have. -/
theorem restorable_of_known (named : catalog.Named) (inStep : catalog.InStep)
    (unlisted : catalog.contains "" = false)
    (known : ∀ node ∈ graph.nodes, catalog.contains node.kind = true) :
    graph.Restorable catalog := by
  have resolved : ∀ {id kind}, graph.kind? id = some kind →
      ∃ handles, catalog.handles? kind = some handles := by
    intro id kind found
    obtain ⟨node, lookup, rfl⟩ := Option.map_eq_some_iff.mp found
    have listed := known node (List.mem_of_find?_eq_some lookup)
    rw [inStep.contains_eq] at listed
    obtain ⟨definition, entry⟩ := Option.isSome_iff_exists.mp listed
    exact ⟨definition.handles, congrArg (Option.map Definition.handles) entry⟩
  refine exportable.restorable ?_ ?_
  · intro node member blank
    have listed := known node member
    rw [(exportable.nodes node member).label blank, unlisted] at listed
    exact Bool.noConfusion listed
  · intro edge member
    obtain ⟨source, target, leaves, enters, -, declared, output⟩ :=
      (rejection?_eq_none_iff graph _).mp (exportable.settled.admitted edge member)
    obtain ⟨sourceHandles, sourceResolved⟩ := resolved leaves
    obtain ⟨targetHandles, targetResolved⟩ := resolved enters
    constructor
    · rw [(output sourceHandles sourceResolved).2]
      exact nofun
    · intro blank
      have empty := declared targetHandles targetResolved
      rw [blank, named.declaresInput_empty targetResolved] at empty
      exact Bool.noConfusion empty

end Graph.Exportable

/-- The draft comes back from its own document if its graph does, since nothing else is changed. -/
theorem Draft.restore_document_eq_iff (draft : Draft) :
    (draft.document.restore catalog settings).1 = draft ↔
      (draft.graph.save.restore catalog settings).1 = draft.graph := by
  constructor
  · exact congrArg Draft.graph
  · intro same
    simp only [Document.restore, document, Option.getD_some, same]

namespace Editing

variable {state : Editing}

theorem Reaches.exportable (reached : (start .builtIn settings).Reaches Generated state) :
    state.session.draft.graph.Exportable .builtIn := by
  have maintained : Graph.Maintained (fun graph id =>
      (∃ random, id = NodeId.ofRandom random) ∧ id ∉ graph.nodeIds) .builtIn settings
      (Graph.Exportable .builtIn) := by
    refine Graph.exportable_maintained Catalog.builtIn_named fun graph id generated => ?_
    obtain ⟨⟨random, rfl⟩, fresh⟩ := generated
    exact ⟨NodeId.ofRandom_ne_empty random, fresh⟩
  exact (reached.everywhere maintained).draft

/-- Over the built-in catalog the export of the draft, imported again, leaves nothing out and makes
nothing up, in every state of every run. It is the draft itself unless a node has an empty label or
an edge a handle with an empty name. -/
theorem restore_export_eq_iff
    (reached : (start .builtIn settings).Reaches Generated state) :
    (state.session.document.restore .builtIn settings).2 =
      { droppedEdges := [], rejectedEdges := [], duplicateIds := [], generatedIds := []
        unresolvedKinds := state.session.draft.graph.unresolvedKinds .builtIn } ∧
    ((state.session.document.restore .builtIn settings).1 = state.session.draft ↔
      (∀ node ∈ state.session.draft.graph.nodes, node.label ≠ "") ∧
      ∀ edge ∈ state.session.draft.graph.edges,
        edge.sourceHandle ≠ some "" ∧ edge.targetHandle ≠ some "") := by
  refine ⟨reached.exportable.report_eq Catalog.builtIn_named, ?_⟩
  exact (Draft.restore_document_eq_iff state.session.draft).trans
    (reached.exportable.restore_eq_iff Catalog.builtIn_named)

/-- A node of no kind gets an empty label, which the import replaces. -/
theorem restore_export_emptyKind :
    let state := (start .builtIn .standard).step
      (.command (NodeId.ofRandom 0) (.addNode "" ⟨0.0, 0.0⟩))
    (start .builtIn .standard).Reaches Generated state ∧
      (state.session.document.restore .builtIn .standard).1 ≠ state.session.draft := by
  intro state
  have reached : (start .builtIn .standard).Reaches Generated state :=
    .step .refl fun _ => ⟨⟨0, rfl⟩, List.not_mem_nil⟩
  refine ⟨reached, fun same => ?_⟩
  obtain ⟨labelled, -⟩ := (restore_export_eq_iff reached).2.mp same
  have labels : state.session.draft.graph.nodes.map (·.label) = [""] := by decide +kernel
  obtain ⟨node, member, blank⟩ := List.mem_map.mp (labels ▸ List.mem_cons_self)
  exact labelled node member blank

/-- With nodes of built-in kinds only, the draft comes back and there is nothing to report. -/
theorem Reaches.restore_export_of_known
    (reached : (start .builtIn settings).Reaches Generated state)
    (known : ∀ node ∈ state.session.draft.graph.nodes,
      Catalog.builtIn.contains node.kind = true) :
    state.session.document.restore .builtIn settings = (state.session.draft, {}) := by
  have restorable := reached.exportable.restorable_of_known Catalog.builtIn_named
    Catalog.builtIn_inStep (by decide +kernel) known
  have kinds : state.session.draft.graph.unresolvedKinds .builtIn = [] := by
    have none : ∀ kind ∈ state.session.draft.graph.nodes.map (·.kind),
        ¬(!Catalog.builtIn.contains kind) = true := by
      intro kind member
      obtain ⟨node, present, rfl⟩ := List.mem_map.mp member
      simp [known node present]
    simp [Graph.unresolvedKinds, List.filter_eq_nil_iff.mpr none, SavedGraph.sortedDistinct]
  exact (Draft.restore_document restorable).trans (by rw [kinds])

end Editing

end SignalGraph
