import SignalGraph.Proofs.Document.Export
import SignalGraph.Proofs.Json.Ordinary

/-! Documents that were read, written, and read again.

The parameters of a node and the configuration stand as deep in the text of a document as they are
written, so those of a text without the reserved key are never nested too deep.
-/

set_option autoImplicit false

namespace SignalGraph

theorem SavedNode.fits_of_dataOfTree? {room : Nat} {tree : Tree}
    (ordinary : tree.Ordinary (room + 2)) {map : KeyMap Json} {label : String}
    (read : dataOfTree? tree = some (map, label)) : map.Fits (room + 1) := by
  obtain ⟨slots, found, read⟩ := Option.bind_eq_some_iff.mp read
  split at read
  · rename_i parameters text
    obtain ⟨held, given, read⟩ := Option.bind_eq_some_iff.mp read
    obtain ⟨_, -, read⟩ := Option.bind_eq_some_iff.mp read
    cases read
    refine Slot.fits_of_nullAsDefault (fun part inside => ?_) given
    exact ordinary.of_slots? found (by simp [inside])
  · cases read

theorem SavedNode.fits_of_ofTree? {room : Nat} {tree : Tree}
    (ordinary : tree.Ordinary (room + 3)) {node : SavedNode} (read : ofTree? tree = some node) :
    node.parameters.Fits (room + 1) := by
  obtain ⟨_, _, _, data, found, -, given⟩ := slots_of_ofTree? read
  rcases Slot.given_of_nullAsDefault given with ⟨part, rfl, inside⟩ | same
  · exact fits_of_dataOfTree? (ordinary.of_slots? found (by simp)) inside
  · rw [(Prod.mk.inj same).1]
    exact KeyMap.fits_empty room

theorem SavedGraph.fits_of_ofTree? {room : Nat} {tree : Tree}
    (ordinary : tree.Ordinary (room + 5)) {graph : SavedGraph} (read : ofTree? tree = some graph) :
    ∀ node ∈ graph.nodes, node.parameters.Fits (room + 1) := by
  intro node member
  obtain ⟨list, item, listed, isPart, itemRead⟩ := part_of_ofTree? read member
  exact SavedNode.fits_of_ofTree? ((ordinary.of_isPart listed).of_isPart isPart) itemRead

namespace Document

theorem portable_of_ofTree? {tree : Tree} {document : Document} (inRange : tree.InRange)
    (ordinary : tree.Ordinary Tree.depthLimit) (read : ofTree? tree = some document) :
    document.Portable .straight := by
  obtain ⟨_, _, _, config, _, found, graphRead, given⟩ := slots_of_ofTree? read
  have nodes : ∀ node ∈ document.graph.nodes, node.parameters.Fits 122 := by
    obtain ⟨part, rfl, inside⟩ := Slot.given_of_required graphRead
    have graphOrdinary : part.Ordinary 126 := ordinary.of_slots? found (by simp)
    exact SavedGraph.fits_of_ofTree? graphOrdinary inside
  have configFits : document.config.Fits 126 := by
    refine Slot.fits_of_nullAsDefault (fun part inside => ?_) given
    exact ordinary.of_slots? found (by simp [inside])
  exact
    { finite := finite_of_ofTree? inRange read
      shallow := (document.depth_le_iff 122).mpr
        ⟨fun node member => (nodes node member).1, configFits.1⟩
      parameters := fun node member => (nodes node member).2
      config := configFits.2 }

theorem ofTree?_readBack_iff (document : Document) :
    ofTree? (document.toTree.readBack Tree.depthLimit) = some document ↔
      document.Portable .straight := by
  rw [← read?_iff_portable .straight trivial]
  rfl

end Document

end SignalGraph
