import SignalGraph.Proofs.Document.Stable
import SignalGraph.Proofs.Document.Text
import SignalGraph.Proofs.Json.Range

/-! What an import exports can be opened again, or not, and on what that depends.

The document of an accepted text has numbers for coordinates. An import adds places on a grid that
the settings describe and parameters that the catalog declares, and only these and texts embedded in
the document may keep the export from being read again.
-/

set_option autoImplicit false

namespace SignalGraph

/-! ## Positions that were read -/

theorem Position.isFinite_of_ofTree? {tree : Tree} {position : Position}
    (inRange : tree.InRange) (read : ofTree? tree = some position) : position.IsFinite := by
  obtain ⟨slots, found, read⟩ := Option.bind_eq_some_iff.mp read
  split at read
  · rename_i x y
    obtain ⟨first, xRead, read⟩ := Option.bind_eq_some_iff.mp read
    obtain ⟨second, yRead, read⟩ := Option.bind_eq_some_iff.mp read
    cases read
    exact ⟨inRange.required_isFinite found (by simp) xRead,
      inRange.required_isFinite found (by simp) yRead⟩
  · cases read

theorem SavedNode.slots_of_ofTree? {tree : Tree} {node : SavedNode}
    (read : ofTree? tree = some node) : ∃ id kind position data,
      tree.slots? [["id"], ["kind", "type"], ["position"], ["data"]] =
        some [id, kind, position, data] ∧
      position.optional Position.ofTree? = some node.position ∧
      data.nullAsDefault dataOfTree? (.empty, "") = some (node.parameters, node.label) := by
  obtain ⟨slots, found, read⟩ := Option.bind_eq_some_iff.mp read
  split at read
  · obtain ⟨⟨map, label⟩, dataRead, read⟩ := Option.bind_eq_some_iff.mp read
    obtain ⟨name, -, read⟩ := Option.bind_eq_some_iff.mp read
    obtain ⟨word, -, read⟩ := Option.bind_eq_some_iff.mp read
    obtain ⟨place, positionRead, read⟩ := Option.bind_eq_some_iff.mp read
    cases read
    exact ⟨_, _, _, _, found, positionRead, dataRead⟩
  · cases read

theorem SavedNode.isFinite_of_ofTree? {tree : Tree} {node : SavedNode}
    (inRange : tree.InRange) (read : ofTree? tree = some node) : node.IsFinite := by
  intro position placed
  -- Of the four fields only the position has coordinates.
  obtain ⟨_, _, _, _, found, given, -⟩ := slots_of_ofTree? read
  rw [placed] at given
  obtain ⟨place, rfl, -, inside⟩ := Slot.given_of_optional given
  exact Position.isFinite_of_ofTree? (inRange.of_slots? found (by simp)) inside

theorem SavedGraph.part_of_ofTree? {tree : Tree} {graph : SavedGraph}
    (read : ofTree? tree = some graph) {node : SavedNode} (member : node ∈ graph.nodes) :
    ∃ list item : Tree, list.IsPart tree ∧ item.IsPart list ∧
      SavedNode.ofTree? item = some node := by
  obtain ⟨slots, found, read⟩ := Option.bind_eq_some_iff.mp read
  split at read
  · obtain ⟨nodes, nodesRead, read⟩ := Option.bind_eq_some_iff.mp read
    obtain ⟨others, -, read⟩ := Option.bind_eq_some_iff.mp read
    cases read
    obtain ⟨list, rfl, listRead⟩ := Slot.given_of_required nodesRead
    obtain ⟨item, isPart, itemRead⟩ := Tree.isPart_of_list? listRead member
    exact ⟨list, item, Tree.isPart_of_slots? found List.mem_cons_self, isPart, itemRead⟩
  · cases read

theorem SavedGraph.finite_of_ofTree? {tree : Tree} {graph : SavedGraph}
    (inRange : tree.InRange) (read : ofTree? tree = some graph) :
    ∀ node ∈ graph.nodes, node.IsFinite := by
  intro node member
  obtain ⟨list, item, listed, isPart, itemRead⟩ := part_of_ofTree? read member
  exact SavedNode.isFinite_of_ofTree? ((inRange.of_isPart listed).of_isPart isPart) itemRead

namespace Document

theorem slots_of_ofTree? {tree : Tree} {document : Document}
    (read : ofTree? tree = some document) : ∃ name description graph config isPublic,
      tree.slots? [["name"], ["description"], ["graph", "strategy_graph"], ["config"],
        ["is_public"]] = some [name, description, graph, config, isPublic] ∧
      graph.required SavedGraph.ofTree? = some document.graph ∧
      config.nullAsDefault (Tree.keyMap? Json.ofTree?) .empty = some document.config := by
  obtain ⟨slots, found, read⟩ := Option.bind_eq_some_iff.mp read
  split at read
  · obtain ⟨name, -, read⟩ := Option.bind_eq_some_iff.mp read
    obtain ⟨description, -, read⟩ := Option.bind_eq_some_iff.mp read
    obtain ⟨graph, graphRead, read⟩ := Option.bind_eq_some_iff.mp read
    obtain ⟨config, configRead, read⟩ := Option.bind_eq_some_iff.mp read
    obtain ⟨isPublic, -, read⟩ := Option.bind_eq_some_iff.mp read
    cases read
    exact ⟨_, _, _, _, _, found, graphRead, configRead⟩
  · cases read

theorem finite_of_ofTree? {tree : Tree} {document : Document} (inRange : tree.InRange)
    (read : ofTree? tree = some document) : ∀ node ∈ document.graph.nodes, node.IsFinite := by
  obtain ⟨_, _, _, _, _, found, graphRead, -⟩ := slots_of_ofTree? read
  obtain ⟨part, rfl, partRead⟩ := Slot.given_of_required graphRead
  exact SavedGraph.finite_of_ofTree? (inRange.of_slots? found (by simp)) partRead

/-- The positions in an accepted document are numbers. -/
theorem finite_of_parse {text : String} {document : Document}
    (accepted : parse text = .ok document) : ∀ node ∈ document.graph.nodes, node.IsFinite := by
  unfold parse at accepted
  split at accepted
  · cases accepted
  · rename_i value _
    have read := ((ofValue_eq_ok_iff value document).mp accepted).2
    exact finite_of_ofTree? value.canonical.inRange read

end Document

/-! ## What an import adds -/

namespace SavedGraph

theorem node_mem_of_mem_identify {taken : List String} {index : Nat} {nodes : List SavedNode}
    {entry : IdentifiedNode} (member : entry ∈ identify taken index nodes) :
    entry.node ∈ nodes := by
  induction nodes generalizing taken index with
  | nil => exact absurd member List.not_mem_nil
  | cons node rest ih =>
    unfold identify at member
    split at member
    · rcases List.mem_cons.mp member with rfl | member
      · exact List.mem_cons_self
      · exact List.mem_cons_of_mem node (ih member)
    · rcases List.mem_cons.mp member with rfl | member
      · exact List.mem_cons_self
      · exact List.mem_cons_of_mem node (ih member)

theorem node_mem_of_mem_kept {saved : SavedGraph} {entry : IdentifiedNode}
    (member : entry ∈ saved.kept) : entry.node ∈ saved.nodes :=
  node_mem_of_mem_identify ((splitDuplicates_sublist [] _).subset member)

/-- The saved parameters over those that the catalog gives a node of that kind. -/
def importedParameters (catalog : Catalog) (node : SavedNode) : KeyMap Json :=
  (catalog.defaults node.kind).union node.parameters

end SavedGraph

namespace Document

variable {catalog : Catalog} {settings : Settings} {document : Document}

/-- The grid has numbers for the nodes that have no place of their own. -/
def Placed (settings : Settings) (document : Document) : Prop :=
  ∀ entry ∈ document.graph.kept, entry.node.position = none →
    (SavedGraph.gridPosition settings entry.index).IsFinite

/-- Neither the settings nor the catalog nor the document has anything that an export loses. Five
containers are around the parameters of a node, and one is around the configuration. -/
structure Reopenable (catalog : Catalog) (settings : Settings) (document : Document) : Prop where
  placed : document.Placed settings
  parameters : ∀ entry ∈ document.graph.kept,
    let parameters := SavedGraph.importedParameters catalog entry.node
    parameters.toTree.depth + 5 ≤ Tree.depthLimit ∧ parameters.toTree.Plain
  config : document.config.toTree.depth + 1 ≤ Tree.depthLimit ∧ document.config.toTree.Plain

theorem exported_nodes (document : Document) (catalog : Catalog) (settings : Settings) :
    (document.restore catalog settings).1.document.graph.nodes =
      document.graph.kept.map fun entry => (SavedGraph.importNode catalog settings entry).save := by
  have nodes : (document.restore catalog settings).1.graph.nodes =
      document.graph.kept.map (SavedGraph.importNode catalog settings) :=
    document.graph.restore_nodes
  rw [Draft.document, Graph.save, nodes, List.map_map]
  rfl

section Accepted

variable (finite : ∀ node ∈ document.graph.nodes, node.IsFinite)
include finite

theorem exported_finite_iff :
    (∀ node ∈ (document.restore catalog settings).1.document.graph.nodes, node.IsFinite) ↔
      document.Placed settings := by
  rw [exported_nodes, List.forall_mem_map]
  refine forall₂_congr fun entry member => ?_
  have own := finite entry.node (SavedGraph.node_mem_of_mem_kept member)
  simp only [SavedNode.IsFinite, SavedGraph.importNode, Node.save, Option.some.injEq, forall_eq']
  cases place : entry.node.position with
  | none => simp
  | some position => simp [own position place]

theorem exported_portable_iff :
    (document.restore catalog settings).1.document.Portable (.valued Json.ofText?) ↔
      document.Reopenable catalog settings := by
  have limit : Tree.depthLimit = 122 + 5 := rfl
  have depth := depth_le_iff (document.restore catalog settings).1.document 122
  have exported : ∀ P : KeyMap Json → Prop,
      (∀ node ∈ (document.restore catalog settings).1.document.graph.nodes, P node.parameters) ↔
        ∀ entry ∈ document.graph.kept, P (SavedGraph.importedParameters catalog entry.node) := by
    intro P
    rw [exported_nodes, List.forall_mem_map]
    rfl
  rw [exported fun parameters => parameters.toTree.depth ≤ 122] at depth
  have plain := exported (Reading.valued Json.ofText?).Admits
  constructor
  · intro portable
    obtain ⟨parameters, config⟩ := depth.mp portable.shallow
    have parametersPlain := plain.mp portable.parameters
    exact ⟨(exported_finite_iff finite).mp portable.finite,
      fun entry member => ⟨Nat.add_le_add_right (parameters entry member) 5,
        parametersPlain entry member⟩,
      Nat.add_le_add_right config 1, portable.config⟩
  · intro reopenable
    have parameters := fun entry member =>
      Nat.le_of_add_le_add_right (limit ▸ (reopenable.parameters entry member).1)
    have config := Nat.le_of_add_le_add_right (limit ▸ reopenable.config.1)
    exact ⟨(exported_finite_iff finite).mpr reopenable.placed, depth.mpr ⟨parameters, config⟩,
      plain.mpr fun entry member => (reopenable.parameters entry member).2, reopenable.config.2⟩

end Accepted

/-- The export of an import is read as the document it was written for just when the document can be
reopened, and the import of what is read is then the same draft. No export is accepted, as whatever
document, if the grid has no number for some node or if it is nested too deep. -/
theorem reopens_iff {text : String} {document : Document} (accepted : parse text = .ok document)
    (catalog : Catalog) (settings : Settings) :
    let draft := (document.restore catalog settings).1
    (parse draft.document.pretty = .ok draft.document ↔
      document.Reopenable catalog settings) ∧
    (document.Reopenable catalog settings → ∃ again,
      parse draft.document.pretty = .ok again ∧ (again.restore catalog settings).1 = draft) ∧
    ∀ again, parse draft.document.pretty = .ok again →
      document.Placed settings ∧ draft.document.toTree.depth ≤ Tree.depthLimit := by
  intro draft
  have finite := finite_of_parse accepted
  have read := Tree.read?_indented draft.document.toTree
  have reads : parse draft.document.pretty = .ok draft.document ↔
      document.Reopenable catalog settings :=
    (parse_eq_ok_iff read).trans (exported_portable_iff finite)
  refine ⟨reads, fun reopenable => ⟨draft.document, reads.mpr reopenable, ?_⟩,
    fun again found => ?_⟩
  · rw [Draft.restore_document (SavedGraph.restorable_restore document.graph)]
  · obtain ⟨numbers, shallow⟩ := fits_of_parse_eq_ok read found
    exact ⟨(exported_finite_iff finite).mp numbers, shallow⟩

/-- A table of settings may give the grid an origin that is no number. A document with one node and
no place for it is accepted, but what its import exports is not. -/
theorem reopens_grid_nan :
    let settings := Settings.ofTable (.ofList [("grid_origin_x", "nan")])
    let document : Document :=
      { name := "", description := none
        graph := ⟨[{ id := some "a", kind := "rsi", position := none, parameters := .empty
                     label := "" }], []⟩
        config := .empty, isPublic := false }
    parse document.pretty = .ok document ∧
      ∀ again, parse (document.restore .builtIn settings).1.document.pretty ≠ .ok again := by
  intro settings document
  have portable : document.Portable (.valued Json.ofText?) :=
    { finite := fun node member position placed => by
        cases List.mem_singleton.mp member
        cases placed
      shallow := by decide +kernel
      parameters := fun node member => by
        cases List.mem_singleton.mp member
        exact ⟨rfl, trivial⟩
      config := ⟨rfl, trivial⟩ }
  have accepted := (parse_eq_ok_iff (Tree.read?_indented document.toTree)).mpr portable
  refine ⟨accepted, fun again found => ?_⟩
  obtain ⟨placed, -⟩ := (reopens_iff accepted .builtIn settings).2.2 again found
  have place := placed ⟨0, "a", false, _⟩ List.mem_cons_self rfl
  have origin : (SavedGraph.gridPosition settings 0).x = .nan := by decide +kernel
  rw [Position.IsFinite, origin] at place
  exact place.1

end Document

end SignalGraph
