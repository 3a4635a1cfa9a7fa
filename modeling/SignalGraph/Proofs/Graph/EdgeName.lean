import SignalGraph.Proofs.Graph.Wiring
import SignalGraph.Proofs.NodeId
import Mathlib.Data.List.Pairwise

/-! Whether an edge can be told by its id.

The id joins the ids of two nodes and the name of a handle by dashes, and each of these may hold
dashes of its own. So two edges can share an id, but only if the id of one node continues that of
another after a dash. Made ids are all of one length and never do; the ids of a file may.
-/

set_option autoImplicit false

namespace SignalGraph

/-! ## Texts joined by dashes -/

/-- The longer text is the shorter one with a dash and something behind it. -/
def Continues (longer shorter : String) : Prop := ∃ rest, longer = shorter ++ "-" ++ rest

theorem continues_of_toList {longer shorter : String} {rest : List Char}
    (split : longer.toList = shorter.toList ++ '-' :: rest) : Continues longer shorter := by
  refine ⟨String.ofList rest, String.toList_injective ?_⟩
  simp [split]

theorem Continues.length_lt {longer shorter : String} (continues : Continues longer shorter) :
    shorter.length < longer.length := by
  obtain ⟨rest, rfl⟩ := continues
  have dash : "-".length = 1 := rfl
  simp only [String.length_append, dash]
  omega

/-- A text is either empty or set off by a dash. -/
def SetOff (ending : List Char) : Prop := ∀ c ∈ ending.head?, c = '-'

/-- Where two texts are followed by something set off, the same whole has the same parts, unless one
of the texts reaches past the dash behind the other. -/
theorem eq_or_continues {first second : String} {ending other : List Char} (setOff : SetOff ending)
    (otherSetOff : SetOff other) (same : first.toList ++ ending = second.toList ++ other) :
    first = second ∧ ending = other ∨ Continues first second ∨ Continues second first := by
  rcases List.append_eq_append_iff.mp same with ⟨between, split, tail⟩ | ⟨between, split, tail⟩
  · cases between with
    | nil => exact .inl ⟨String.toList_injective (by simpa using split.symm), tail⟩
    | cons c rest =>
      obtain rfl : c = '-' := setOff c (by rw [tail]; rfl)
      exact .inr (.inr (continues_of_toList split))
  · cases between with
    | nil => exact .inl ⟨String.toList_injective (by simpa using split), tail.symm⟩
    | cons c rest =>
      obtain rfl : c = '-' := otherSetOff c (by rw [tail]; rfl)
      exact .inr (.inl (continues_of_toList split))

namespace Connection

/-- What the id of an edge has behind the target. -/
def handleEnding : Option String → List Char
  | some handle => '-' :: handle.toList
  | none => []

theorem setOff_handleEnding (handle : Option String) : SetOff (handleEnding handle) := by
  cases handle <;> simp [SetOff, handleEnding]

theorem handleEnding_injective {first second : Option String}
    (same : handleEnding first = handleEnding second) : first = second := by
  cases first with
  | none => cases second with
    | none => rfl
    | some => exact absurd same (by simp [handleEnding])
  | some => cases second with
    | none => exact absurd same (by simp [handleEnding])
    | some => simpa [handleEnding, String.toList_inj] using same

theorem toList_edgeId (connection : Connection) :
    connection.edgeId.toList = "edge-".toList ++ (connection.source.toList ++
      '-' :: (connection.target.toList ++ handleEnding connection.targetHandle)) := by
  unfold edgeId
  cases connection.targetHandle <;> simp [handleEnding]

/-- Connections of one id have the same ends and enter the same handle, or an end of one continues
that of the other. -/
theorem edgeId_cases {first second : Connection} (same : first.edgeId = second.edgeId) :
    (first.source = second.source ∧ first.target = second.target ∧
      first.targetHandle = second.targetHandle) ∨
    (Continues first.source second.source ∨ Continues second.source first.source) ∨
    Continues first.target second.target ∨ Continues second.target first.target := by
  have whole := congrArg String.toList same
  rw [toList_edgeId, toList_edgeId, List.append_cancel_left_eq] at whole
  rcases eq_or_continues (by simp [SetOff]) (by simp [SetOff]) whole with ⟨source, rest⟩ | source
  · rcases eq_or_continues (setOff_handleEnding _) (setOff_handleEnding _)
      (List.cons.inj rest).2 with ⟨target, ending⟩ | target
    · exact .inl ⟨source, target, handleEnding_injective ending⟩
    · exact .inr (.inr target)
  · exact .inr (.inl source)

/-- Where no end continues another, connections of one id have the same ends and enter the same
handle. -/
theorem ends_eq_of_apart {among : String → Prop}
    (apart : ∀ first, among first → ∀ second, among second → ¬Continues first second)
    {first second : Connection} (firstEnds : among first.source ∧ among first.target)
    (secondEnds : among second.source ∧ among second.target) (same : first.edgeId = second.edgeId) :
    first.source = second.source ∧ first.target = second.target ∧
      first.targetHandle = second.targetHandle := by
  rcases edgeId_cases same with ends | (continues | continues) | continues | continues
  · exact ends
  · exact absurd continues (apart _ firstEnds.1 _ secondEnds.1)
  · exact absurd continues (apart _ secondEnds.1 _ firstEnds.1)
  · exact absurd continues (apart _ firstEnds.2 _ secondEnds.2)
  · exact absurd continues (apart _ secondEnds.2 _ firstEnds.2)

end Connection

/-! ## Ids of made nodes -/

/-- Ids of the form are equally long. -/
theorem NodeId.Formed.not_continues {first second : String} (firstFormed : Formed first)
    (secondFormed : Formed second) : ¬Continues first second := by
  intro continues
  have longer := continues.length_lt
  rw [firstFormed.length, secondFormed.length] at longer
  exact Nat.lt_irrefl _ longer

/-- Between nodes whose ids have the form of made ones, the id of an edge tells both ends and the
handle it enters, the anonymous one included. The name of a handle may be any text. -/
theorem Connection.edgeId_eq_iff_of_formed {first second : Connection}
    (firstSource : NodeId.Formed first.source) (firstTarget : NodeId.Formed first.target)
    (secondSource : NodeId.Formed second.source) (secondTarget : NodeId.Formed second.target) :
    first.edgeId = second.edgeId ↔
      first.source = second.source ∧ first.target = second.target ∧
        first.targetHandle = second.targetHandle := by
  constructor
  · intro same
    -- The dashes inside the ids do no harm: a text that continues another is longer than it.
    exact ends_eq_of_apart (fun _ longer _ shorter => longer.not_continues shorter)
      ⟨firstSource, firstTarget⟩ ⟨secondSource, secondTarget⟩ same
  · rintro ⟨source, target, handle⟩
    unfold edgeId
    rw [source, target, handle]

/-- Entering the handle with the empty name is told from entering none. -/
theorem Connection.edgeId_ne_of_emptyHandle :
    (NodeId.Formed (NodeId.ofRandom 0) ∧ NodeId.Formed (NodeId.ofRandom 1)) ∧
      (⟨NodeId.ofRandom 0, none, NodeId.ofRandom 1, some ""⟩ : Connection).edgeId ≠
        (⟨NodeId.ofRandom 0, none, NodeId.ofRandom 1, none⟩ : Connection).edgeId := by
  have source := NodeId.formed_ofRandom 0
  have target := NodeId.formed_ofRandom 1
  refine ⟨⟨source, target⟩, fun same => ?_⟩
  have ends := (edgeId_eq_iff_of_formed source target source target).mp same
  exact absurd ends.2.2 (by decide)

namespace Graph

variable {catalog : Catalog} {graph : Graph}

/-- No node id continues another. -/
def IdsApart (graph : Graph) : Prop :=
  ∀ first ∈ graph.nodeIds, ∀ second ∈ graph.nodeIds, ¬Continues first second

theorem idsApart_of_made
    (made : ∀ id ∈ graph.nodeIds, ∃ random, id = NodeId.ofRandom random) : graph.IdsApart := by
  intro first firstMember second secondMember
  obtain ⟨firstRandom, rfl⟩ := made first firstMember
  obtain ⟨secondRandom, rfl⟩ := made second secondMember
  exact (NodeId.formed_ofRandom firstRandom).not_continues (NodeId.formed_ofRandom secondRandom)

theorem IdsApart.ends_eq (apart : graph.IdsApart) {first second : Connection}
    (firstEnds : first.source ∈ graph.nodeIds ∧ first.target ∈ graph.nodeIds)
    (secondEnds : second.source ∈ graph.nodeIds ∧ second.target ∈ graph.nodeIds)
    (same : first.edgeId = second.edgeId) :
    first.source = second.source ∧ first.target = second.target ∧
      first.targetHandle = second.targetHandle :=
  Connection.ends_eq_of_apart apart firstEnds secondEnds same

/-! ## Edges and their ids -/

theorem Settled.eq_of_ends (settled : graph.Settled catalog) {first second : Edge}
    (firstMember : first ∈ graph.edges) (secondMember : second ∈ graph.edges)
    (ends : first.source = second.source ∧ first.target = second.target ∧
      first.targetHandle = second.targetHandle) : first = second := by
  have : Std.Symm fun first second : Edge => ¬(first.source = second.source ∧
      first.target = second.target ∧ first.targetHandle = second.targetHandle) :=
    ⟨fun _ _ apart ⟨source, target, handle⟩ => apart ⟨source.symm, target.symm, handle.symm⟩⟩
  refine Decidable.byContradiction fun different => ?_
  exact settled.wellFormed.edges_distinct.forall firstMember secondMember different ends

theorem Settled.edges_nodup (settled : graph.Settled catalog) : graph.edges.Nodup := by
  refine settled.wellFormed.edges_distinct.imp ?_
  rintro first second apart rfl
  exact apart ⟨rfl, rfl, rfl⟩

/-- Edges between nodes whose ids are apart have ids of their own. -/
theorem Settled.edgeIds_nodup (settled : graph.Settled catalog) (apart : graph.IdsApart) :
    (graph.edges.map (·.id)).Nodup := by
  refine settled.edges_nodup.map_on fun first firstMember second secondMember same => ?_
  rw [settled.derived first firstMember, settled.derived second secondMember] at same
  have firstAdmitted := settled.admitted first firstMember
  have secondAdmitted := settled.admitted second secondMember
  exact settled.eq_of_ends firstMember secondMember (apart.ends_eq
    ⟨source_mem_nodeIds firstAdmitted, target_mem_nodeIds firstAdmitted⟩
    ⟨source_mem_nodeIds secondAdmitted, target_mem_nodeIds secondAdmitted⟩ same)

/-- The id stands for the edge: it is what is found under the id, and all that goes with it. -/
structure Identifies (graph : Graph) (edge : Edge) : Prop where
  found : graph.edge? edge.id = some edge
  removed : graph.disconnect? edge.id = some { graph with edges := graph.edges.erase edge }

theorem disconnect?_of_mem {edge : Edge} (member : edge ∈ graph.edges) :
    graph.disconnect? edge.id =
      some { graph with edges := graph.edges.filter fun other => other.id ≠ edge.id } := by
  have present : (graph.edges.any fun other => other.id = edge.id) = true :=
    List.any_eq_true.mpr ⟨edge, member, by simp⟩
  rw [disconnect?, if_pos present]

/-- An id stands for an edge exactly if no other edge has it. -/
theorem identifies_iff {edge : Edge} (single : graph.edges.Nodup) (member : edge ∈ graph.edges) :
    graph.Identifies edge ↔ ∀ other ∈ graph.edges, other.id = edge.id → other = edge := by
  constructor
  · rintro ⟨-, removed⟩ other present same
    rw [disconnect?_of_mem member, Option.some.injEq, Graph.mk.injEq] at removed
    refine Decidable.byContradiction fun different => ?_
    have stays : other ∈ graph.edges.erase edge := (List.mem_erase_of_ne different).mpr present
    rw [← removed.2, List.mem_filter] at stays
    simp [same] at stays
  · intro alone
    constructor
    · exact edge?_of_alone member alone
    · have kept : ∀ other ∈ graph.edges, decide (other.id ≠ edge.id) = (other != edge) := by
        intro other present
        by_cases same : other = edge
        · simp [same]
        · have differs : other.id ≠ edge.id := fun shared => same (alone other present shared)
          simp [same, differs]
      rw [disconnect?_of_mem member, single.erase_eq_filter, List.filter_congr kept]

/-- What the ids of edges are good for. -/
structure EdgeIdentity (graph : Graph) : Prop where
  unshared : ∀ edge ∈ graph.edges,
    (graph.Identifies edge ↔ ∀ other ∈ graph.edges, other.id = edge.id → other = edge)
  distinct : (∀ edge ∈ graph.edges, graph.Identifies edge) ↔ (graph.edges.map (·.id)).Nodup
  /-- Where no node id continues another, ids tell all edges apart. -/
  apart : graph.IdsApart → (graph.edges.map (·.id)).Nodup

theorem Settled.edgeIdentity (settled : graph.Settled catalog) : graph.EdgeIdentity where
  unshared _ member := identifies_iff settled.edges_nodup member
  distinct := by
    have single := settled.edges_nodup
    constructor
    · intro identified
      refine single.map_on fun first firstMember second secondMember same => ?_
      exact (identifies_iff single secondMember).mp (identified second secondMember) first
        firstMember same
    · intro distinct edge member
      refine (identifies_iff single member).mpr fun other present same => ?_
      exact List.inj_on_of_nodup_map distinct present member same
  apart := settled.edgeIds_nodup

end Graph

end SignalGraph
