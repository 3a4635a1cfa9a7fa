import SignalGraph.Proofs.Document.Restore

/-! What the report of an import says: which nodes and edges of the saved graph were left out, and
which ids and kinds were made up or not known.

Nodes are told apart by the ids they go by, edges are judged against the nodes that were kept. No
edge has a say in what becomes of another one here.
-/

set_option autoImplicit false

namespace SignalGraph

/-! ## Sorted texts -/

namespace SavedGraph

theorem mem_sortedDistinct {text : String} {texts : List String} :
    text ∈ sortedDistinct texts ↔ text ∈ texts := by
  rw [sortedDistinct, (List.mergeSort_perm _ _).mem_iff, List.mem_eraseDups]

theorem sortedDistinct_ascending (texts : List String) :
    (sortedDistinct texts).Pairwise fun first second => first < second :=
  ascending_mergeSort (nodup_eraseDups texts)

/-! ## The ids of nodes -/

/-- The nodes of a saved graph with their places and the ids they go by. -/
def entries (saved : SavedGraph) : List IdentifiedNode :=
  identify (givenIds saved.nodes) 0 saved.nodes

/-- The ids that were made up for nodes. -/
def madeIds (entries : List IdentifiedNode) : List String :=
  (entries.filter (·.generated)).map (·.id)

theorem madeIds_append (first second : List IdentifiedNode) :
    madeIds (first ++ second) = madeIds first ++ madeIds second := by
  rw [madeIds, List.filter_append, List.map_append, madeIds, madeIds]

theorem madeIds_singleton (entry : IdentifiedNode) :
    madeIds [entry] = if entry.generated then [entry.id] else [] := by
  cases made : entry.generated <;> simp [madeIds, made]

/-- The node goes by the id it brings, or by the one made up for its place. The ids that nodes bring
are taken then, and so are those made up for earlier nodes. -/
structure Resolved (given : List String) (entries : List IdentifiedNode) (entry : IdentifiedNode) :
    Prop where
  id : entry.id = (givenId? entry.node).getD
    (generatedId entry.index ((madeIds (entries.take entry.index)).reverse ++ given))
  generated : entry.generated = (givenId? entry.node).isNone

theorem identify_nodes (taken : List String) (index : Nat) (nodes : List SavedNode) :
    (identify taken index nodes).map (·.node) = nodes := by
  induction nodes generalizing taken index with
  | nil => rfl
  | cons node rest ih =>
    unfold identify
    split <;> simp only [List.map_cons, ih]

theorem identify_indices (taken : List String) (index : Nat) (nodes : List SavedNode) :
    (identify taken index nodes).map (·.index) = List.range' index nodes.length := by
  induction nodes generalizing taken index with
  | nil => rfl
  | cons node rest ih =>
    unfold identify
    split <;> simp only [List.map_cons, ih, List.length_cons, List.range'_succ]

theorem identify_resolved (given : List String) (before : List IdentifiedNode)
    (nodes : List SavedNode) :
    ∀ entry ∈ identify ((madeIds before).reverse ++ given) before.length nodes,
      Resolved given (before ++ identify ((madeIds before).reverse ++ given) before.length nodes)
        entry := by
  -- The nodes that come before are kept in hand, for what was made up for them is taken.
  induction nodes generalizing before with
  | nil => exact fun _ member => absurd member List.not_mem_nil
  | cons node rest ih =>
    intro entry member
    unfold identify at member ⊢
    split at member
    · rename_i id brought
      rcases List.mem_cons.mp member with rfl | member
      · exact ⟨by simp [brought], by simp [brought]⟩
      · have later := ih (before ++ [⟨before.length, id, false, node⟩]) entry
        simp only [madeIds_append, madeIds_singleton, Bool.false_eq_true, if_false, List.append_nil,
          List.length_append, List.length_singleton, List.append_assoc,
          List.singleton_append] at later
        exact later member
    · rename_i brought
      rcases List.mem_cons.mp member with rfl | member
      · exact ⟨by simp [brought], by simp [brought]⟩
      · -- The id made up for this node is taken for all that follow.
        have later := ih (before ++ [⟨before.length,
          generatedId before.length ((madeIds before).reverse ++ given), true, node⟩]) entry
        simp only [madeIds_append, madeIds_singleton, if_true, List.reverse_append,
          List.reverse_singleton, List.length_append, List.length_singleton, List.append_assoc,
          List.singleton_append] at later
        exact later member

/-! ## First nodes of an id -/

/-- Some node at an earlier place goes by the same id. -/
def repeats (entries : List IdentifiedNode) (entry : IdentifiedNode) : Bool :=
  entry.id ∈ (entries.take entry.index).map (·.id)

theorem splitDuplicates_eq {seen : List String} {before nodes : List IdentifiedNode}
    (known : ∀ id, id ∈ seen ↔ id ∈ before.map (·.id))
    (indices : nodes.map (·.index) = List.range' before.length nodes.length) :
    splitDuplicates seen nodes =
      (nodes.filter fun entry => !repeats (before ++ nodes) entry,
        nodes.filter (repeats (before ++ nodes))) := by
  -- The ids seen are those of all nodes before, of kept ones and of duplicates alike.
  induction nodes generalizing seen before with
  | nil => rfl
  | cons node rest ih =>
    rw [List.map_cons, List.length_cons, List.range'_succ, List.cons.injEq] at indices
    obtain ⟨place, indices⟩ := indices
    have again : repeats (before ++ node :: rest) node = decide (node.id ∈ seen) := by
      rw [repeats, place, List.take_left, decide_eq_decide]
      exact (known node.id).symm
    have moved : before ++ node :: rest = before ++ [node] ++ rest := by simp
    have restIndices :
        rest.map (·.index) = List.range' (before ++ [node]).length rest.length := by
      simpa using indices
    unfold splitDuplicates
    split
    · -- A duplicate brings no new id.
      rename_i old
      have restKnown : ∀ id, id ∈ seen ↔ id ∈ (before ++ [node]).map (·.id) := by
        intro id
        rw [List.map_append, List.mem_append, ← known id]
        refine ⟨.inl, fun either => either.elim (fun old => old) fun last => ?_⟩
        rw [List.mem_singleton.mp last]
        exact old
      have split := ih restKnown restIndices
      rw [← moved] at split
      simp [split, again, old]
    · rename_i new
      have restKnown : ∀ id, id ∈ node.id :: seen ↔ id ∈ (before ++ [node]).map (·.id) := by
        intro id
        rw [List.mem_cons, known id]
        simp [or_comm]
      have split := ih restKnown restIndices
      rw [← moved] at split
      simp [split, again, new]

theorem entries_indices (saved : SavedGraph) :
    saved.entries.map (·.index) = List.range saved.nodes.length := by
  rw [entries, identify_indices, List.range_eq_range']

theorem splitDuplicates_entries (saved : SavedGraph) :
    splitDuplicates [] saved.entries =
      (saved.entries.filter fun entry => !repeats saved.entries entry,
        saved.entries.filter (repeats saved.entries)) := by
  have known : ∀ id, id ∈ ([] : List String) ↔ id ∈ ([] : List IdentifiedNode).map (·.id) := by
    simp
  have length : saved.entries.length = saved.nodes.length := by
    rw [← List.length_map (·.node), entries, identify_nodes]
  refine splitDuplicates_eq known ?_
  rw [length, List.length_nil, ← List.range_eq_range', saved.entries_indices]

/-! ## The report -/

/-- The node that is made of a saved one. -/
structure Restored (catalog : Catalog) (entry : IdentifiedNode) (node : Node) : Prop where
  id : node.id = entry.id
  kind : node.kind = entry.node.kind
  /-- What was saved lies over the defaults of the kind. -/
  parameters : ∀ key, node.parameters.get? key =
    (entry.node.parameters.get? key).or ((catalog.defaults entry.node.kind).get? key)
  position : ∀ position, entry.node.position = some position → node.position = position

theorem importNode_restored (catalog : Catalog) (settings : Settings) (entry : IdentifiedNode) :
    Restored catalog entry (importNode catalog settings entry) where
  id := rfl
  kind := rfl
  parameters key := KeyMap.get?_union _ _ key
  position position saved := by simp [importNode, saved]

/-- What a graph and a report tell of the saved graph that they were made of. -/
structure Reported (saved : SavedGraph) (catalog : Catalog) (graph : Graph)
    (report : ImportReport) : Prop where
  listed : saved.entries.map (·.node) = saved.nodes ∧
    saved.entries.map (·.index) = List.range saved.nodes.length
  resolved : ∀ entry ∈ saved.entries, Resolved (givenIds saved.nodes) saved.entries entry
  generated : report.generatedIds = madeIds saved.entries
  nodes : List.Forall₂ (Restored catalog)
    (saved.entries.filter fun entry => !repeats saved.entries entry) graph.nodes
  duplicates : report.duplicateIds = (saved.entries.filter (repeats saved.entries)).map (·.id)
  count : graph.nodes.length + report.duplicateIds.length = saved.nodes.length
  unresolved : ∀ kind, kind ∈ report.unresolvedKinds ↔
    kind ∈ graph.nodes.map (·.kind) ∧ catalog.contains kind = false
  ascending : report.unresolvedKinds.Pairwise fun first second => first < second
  dropped : report.droppedEdges = saved.edges.filter fun edge => !joins graph.nodeIds edge
  /-- The reason is read off the nodes, as if no edge had been wired yet. -/
  rejected : report.rejectedEdges = (saved.edges.filter (joins graph.nodeIds)).filterMap fun edge =>
    (Graph.rejection? ⟨graph.nodes, []⟩ catalog (connection edge)).map (⟨edge, ·⟩)

variable {catalog : Catalog} {settings : Settings}

theorem kept_eq (saved : SavedGraph) :
    saved.kept = saved.entries.filter fun entry => !repeats saved.entries entry :=
  congrArg Prod.fst saved.splitDuplicates_entries

theorem restore_duplicateIds (saved : SavedGraph) :
    (saved.restore catalog settings).2.duplicateIds =
      (saved.entries.filter (repeats saved.entries)).map (·.id) :=
  congrArg (fun split => split.2.map (·.id)) saved.splitDuplicates_entries

/-- The report of an import is exact, for any saved graph, catalog and settings. -/
theorem restore_reported (saved : SavedGraph) (catalog : Catalog) (settings : Settings) :
    saved.Reported catalog (saved.restore catalog settings).1
      (saved.restore catalog settings).2 := by
  have nodes : (saved.restore catalog settings).1.nodes =
      saved.kept.map (importNode catalog settings) := saved.restore_nodes
  have ids : (saved.restore catalog settings).1.nodeIds =
      (⟨saved.kept.map (importNode catalog settings), []⟩ : Graph).nodeIds := by
    rw [Graph.nodeIds, nodes, Graph.nodeIds]
  have given : saved.entries.map (·.node) = saved.nodes := identify_nodes _ _ _
  constructor
  case listed => exact ⟨given, saved.entries_indices⟩
  case resolved => exact identify_resolved (givenIds saved.nodes) [] saved.nodes
  case generated => rfl
  case nodes =>
    rw [nodes, ← saved.kept_eq, List.forall₂_map_right_iff, List.forall₂_same]
    exact fun entry _ => importNode_restored catalog settings entry
  case duplicates => exact saved.restore_duplicateIds
  case count =>
    rw [nodes, restore_duplicateIds, kept_eq, List.length_map, List.length_map, Nat.add_comm,
      ← List.length_eq_length_filter_add, ← List.length_map (·.node), given]
  case unresolved =>
    intro kind
    rw [restore_report, mem_sortedDistinct, nodes, List.map_map, List.mem_filter]
    simp [Function.comp_def, importNode]
  case ascending =>
    rw [restore_report]
    exact sortedDistinct_ascending _
  case dropped => rw [restore_report, wire_dropped, ids]
  case rejected => rw [restore_report, wire_rejected, ids, nodes]

end SavedGraph

end SignalGraph
