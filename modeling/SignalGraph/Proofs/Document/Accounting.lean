import SignalGraph.Proofs.Document.Restore
import SignalGraph.Proofs.Graph.Replacement

/-! What becomes of the edges of a saved graph.

An edge may be dropped or rejected, and the report says so. An edge that is wired may still be
replaced by a later one, as when both are drawn by hand, and of this nothing is said.
-/

set_option autoImplicit false

namespace SignalGraph.SavedGraph

variable {catalog : Catalog} {settings : Settings}

/-! ## Lists of connections -/

section

variable {connections : List Connection} {connection : Connection} {ousts other : Connection → Bool}

/-- A later connection ousts this one, and nothing joins the same ends again from there on. -/
def OustedBy (ousts : Connection → Bool) (connections : List Connection)
    (connection : Connection) : Prop :=
  ∃ rest later after, (connection :: rest) <:+ connections ∧ (later :: after) <:+ rest ∧
    ousts later = true ∧ ∀ again ∈ later :: after, again.sameEnds connection = false

/-- The ends are joined by a connection with none after it that ousts it. -/
def Stands (ousts : Connection → Bool) (connections : List Connection)
    (connection : Connection) : Prop :=
  ∃ made after, (made :: after) <:+ connections ∧ made.sameEnds connection = true ∧
    ∀ later ∈ after, ousts later = false

theorem exists_last {p : Connection → Bool} (some : ∃ made ∈ connections, p made = true) :
    ∃ made after, (made :: after) <:+ connections ∧ p made = true ∧
      ∀ later ∈ after, p later = false := by
  induction connections with
  | nil =>
    obtain ⟨made, member, -⟩ := some
    exact absurd member List.not_mem_nil
  | cons first rest ih =>
    by_cases later : ∃ made ∈ rest, p made = true
    · obtain ⟨made, after, last, holds, none⟩ := ih later
      exact ⟨made, after, last.trans (List.suffix_cons first rest), holds, none⟩
    · have none : ∀ made ∈ rest, p made = false := fun made member =>
        Bool.eq_false_iff.mpr fun holds => later ⟨made, member, holds⟩
      obtain ⟨made, member, holds⟩ := some
      rcases List.mem_cons.mp member with rfl | member
      · exact ⟨made, rest, List.suffix_refl _, holds, none⟩
      · exact absurd ⟨made, member, holds⟩ later

theorem mem_of_cons_suffix {after : List Connection}
    (suffix : (connection :: after) <:+ connections) : connection ∈ connections :=
  suffix.subset List.mem_cons_self

theorem exists_suffix (member : connection ∈ connections) :
    ∃ rest, (connection :: rest) <:+ connections := by
  obtain ⟨before, rest, split⟩ := List.append_of_mem member
  exact ⟨rest, before, split.symm⟩

/-- Of two places in a list one is at the other or behind it. -/
theorem suffix_cases {first second : Connection} {rest after : List Connection}
    (earlier : (first :: rest) <:+ connections) (later : (second :: after) <:+ connections) :
    (first :: rest) <:+ (second :: after) ∨ (second :: after) <:+ rest := by
  rcases List.suffix_or_suffix_of_suffix earlier later with inside | inside
  · exact .inl inside
  · rcases List.suffix_cons_iff.mp inside with same | inside
    · exact .inl (same ▸ List.suffix_refl _)
    · exact .inr inside

/-- Among the connections that join its ends the last one decides. -/
theorem stands_iff (member : connection ∈ connections) :
    Stands ousts connections connection ↔ ¬OustedBy ousts connections connection := by
  constructor
  · rintro ⟨made, after, last, same, none⟩ ⟨rest, later, beyond, first, second, ousted, apart⟩
    have second := second.trans ((List.suffix_cons connection rest).trans first)
    rcases suffix_cases last second with inside | inside
    · rw [apart made (mem_of_cons_suffix inside)] at same
      exact Bool.noConfusion same
    · rw [none later (mem_of_cons_suffix inside)] at ousted
      exact Bool.noConfusion ousted
  · -- The last connection of these ends stands, or else what ousts it comes after them all.
    intro unousted
    obtain ⟨made, after, last, same, apart⟩ :=
      exists_last (p := (·.sameEnds connection)) ⟨connection, member, Connection.sameEnds_self _⟩
    refine ⟨made, after, last, same, fun later behind => Bool.eq_false_iff.mpr fun ousted => ?_⟩
    obtain ⟨beyond, second⟩ := exists_suffix behind
    have apart : ∀ again ∈ later :: beyond, again.sameEnds connection = false :=
      fun again inside => apart again (second.subset inside)
    obtain ⟨rest, first⟩ := exists_suffix member
    have second := second.trans ((List.suffix_cons made after).trans last)
    rcases suffix_cases first second with inside | inside
    · have same := apart connection (mem_of_cons_suffix inside)
      rw [Connection.sameEnds_self] at same
      exact Bool.noConfusion same
    · exact unousted ⟨rest, later, beyond, first, inside, ousted, apart⟩

theorem OustedBy.mem (ousted : OustedBy ousts connections connection) :
    connection ∈ connections ∧ ∃ later ∈ connections, ousts later = true := by
  obtain ⟨rest, later, after, first, second, ousted, -⟩ := ousted
  have second := second.trans ((List.suffix_cons connection rest).trans first)
  exact ⟨mem_of_cons_suffix first, later, mem_of_cons_suffix second, ousted⟩

theorem oustedBy_or_iff :
    OustedBy (fun later => ousts later || other later) connections connection ↔
      OustedBy ousts connections connection ∨ OustedBy other connections connection := by
  constructor
  · rintro ⟨rest, later, after, first, second, ousted, apart⟩
    simp only [Bool.or_eq_true] at ousted
    rcases ousted with ousted | ousted
    · exact .inl ⟨rest, later, after, first, second, ousted, apart⟩
    · exact .inr ⟨rest, later, after, first, second, ousted, apart⟩
  · rintro (⟨rest, later, after, first, second, ousted, apart⟩ |
      ⟨rest, later, after, first, second, ousted, apart⟩)
    · exact ⟨rest, later, after, first, second, by simp [ousted], apart⟩
    · exact ⟨rest, later, after, first, second, by simp [ousted], apart⟩

end

/-! ## Wiring -/

/-- The connections that the rules allow, in their order. -/
def admitted (catalog : Catalog) (graph : Graph) (edges : List SavedEdge) : List Connection :=
  (edges.map connection).filter fun connection => (graph.rejection? catalog connection).isNone

theorem rejection?_of_mem_admitted {graph : Graph} {edges : List SavedEdge} {made : Connection}
    (member : made ∈ admitted catalog graph edges) : graph.rejection? catalog made = none :=
  Option.isNone_iff_eq_none.mp (List.mem_filter.mp member).2

theorem mem_admitted {graph : Graph} {edges : List SavedEdge} {edge : SavedEdge}
    (member : edge ∈ edges) :
    connection edge ∈ admitted catalog graph edges ↔
      graph.rejection? catalog (connection edge) = none := by
  rw [admitted, List.mem_filter, Option.isNone_iff_eq_none]
  exact and_iff_right (List.mem_map_of_mem member)

/-- The edges of the result are those that no connection after them displaces. The induction carries
along edges that are there from the start. -/
theorem mem_wire_iff (graph : Graph) (edges : List SavedEdge) (edge : Edge) :
    edge ∈ (wire catalog graph edges).graph.edges ↔
      (edge ∈ graph.edges ∧
        ∀ later ∈ admitted catalog graph edges, graph.displaces catalog later edge = false) ∨
      ∃ made after, (made :: after) <:+ admitted catalog graph edges ∧ edge = made.edge ∧
        ∀ later ∈ after, graph.displaces catalog later edge = false := by
  induction edges generalizing graph with
  | nil => simp [wire, admitted]
  | cons saved rest ih =>
    cases refused : graph.rejection? catalog (connection saved) with
    | some reason =>
      have same : admitted catalog graph (saved :: rest) = admitted catalog graph rest := by
        simp [admitted, refused]
      rw [same, ← ih]
      cases joined : joins graph.nodeIds saved with
      | false => rw [wire_cons_dangling joined]
      | true => rw [wire_cons_refused joined refused]
    | none =>
      have more : admitted catalog graph (saved :: rest) =
          connection saved :: admitted catalog graph rest := by
        simp [admitted, refused]
      rw [wire_cons_admitted refused, ih, more]
      -- The nodes are the same still, and with them the rules and what is displaced.
      change (_ ∧ ∀ later ∈ admitted catalog graph rest,
        graph.displaces catalog later edge = false) ∨
        (∃ made after, (made :: after) <:+ admitted catalog graph rest ∧ edge = made.edge ∧
          ∀ later ∈ after, graph.displaces catalog later edge = false) ↔ _
      simp only [List.suffix_cons_iff, List.cons.injEq, List.mem_append, List.mem_filter,
        List.mem_singleton, List.forall_mem_cons, Bool.not_eq_true']
      constructor
      · rintro (⟨⟨old, stays⟩ | rfl, later⟩ | ⟨made, after, suffix, made_eq, later⟩)
        · exact .inl ⟨old, stays, later⟩
        · exact .inr ⟨_, _, .inl ⟨rfl, rfl⟩, rfl, later⟩
        · exact .inr ⟨made, after, .inr suffix, made_eq, later⟩
      · rintro (⟨old, stays, later⟩ | ⟨made, after, ⟨rfl, rfl⟩ | suffix, made_eq, later⟩)
        · exact .inl ⟨.inl ⟨old, stays⟩, later⟩
        · exact .inl ⟨.inr made_eq, later⟩
        · exact .inr ⟨made, after, suffix, made_eq, later⟩

/-! ## Accounting for edges -/

/-- The kept nodes with no edges yet. -/
def bare (saved : SavedGraph) (catalog : Catalog) (settings : Settings) : Graph :=
  ⟨saved.kept.map (importNode catalog settings), []⟩

/-- The graph has an edge from the source to the target at the same input. -/
def Wires (graph : Graph) (edge : SavedEdge) : Prop :=
  ∃ wired ∈ graph.edges, wired.source = edge.source ∧ wired.target = edge.target ∧
    wired.targetHandle = handle? edge.targetHandle

/-- The report lists the edge, or the graph has it. -/
def Accounted (saved : SavedGraph) (catalog : Catalog) (settings : Settings) (edge : SavedEdge) :
    Prop :=
  edge ∈ (saved.restore catalog settings).2.droppedEdges ∨
    (∃ reason, ⟨edge, reason⟩ ∈ (saved.restore catalog settings).2.rejectedEdges) ∨
    Wires (saved.restore catalog settings).1 edge

/-- The edge was wired, and a later one took its place. -/
def Replaced (saved : SavedGraph) (catalog : Catalog) (settings : Settings) (edge : SavedEdge) :
    Prop :=
  OustedBy
    (fun later => (saved.bare catalog settings).supersedes catalog later (connection edge).edge)
    (admitted catalog (saved.bare catalog settings) saved.edges) (connection edge)

/-- The edge was wired, and a later one into another handle has its id. -/
def Mistaken (saved : SavedGraph) (catalog : Catalog) (settings : Settings) (edge : SavedEdge) :
    Prop :=
  OustedBy
    (fun later => (saved.bare catalog settings).mistakes catalog later (connection edge).edge)
    (admitted catalog (saved.bare catalog settings) saved.edges) (connection edge)

theorem displaces_of_sameEnds {graph : Graph} {first second later : Connection}
    (same : first.sameEnds second = true) :
    graph.displaces catalog later first.edge = graph.displaces catalog later second.edge := by
  obtain ⟨-, target, handle⟩ := Connection.sameEnds_iff.mp same
  have id : first.edge.id = second.edge.id := Connection.edgeId_of_sameEnds same
  have input : first.edge.sameTarget later = second.edge.sameTarget later := by
    rw [Bool.eq_iff_iff, Connection.sameTarget_iff, Connection.sameTarget_iff]
    exact iff_of_eq (congrArg₂ (fun node name => node = later.target ∧ name = later.targetHandle)
      target handle)
  simp only [Graph.displaces, id, input]

variable {saved : SavedGraph} {edge : SavedEdge}

theorem wires_iff_stands :
    Wires (saved.restore catalog settings).1 edge ↔
      Stands
        (fun later => (saved.bare catalog settings).displaces catalog later (connection edge).edge)
        (admitted catalog (saved.bare catalog settings) saved.edges) (connection edge) := by
  have ends : ∀ wired : Edge, (wired.source = edge.source ∧ wired.target = edge.target ∧
      wired.targetHandle = handle? edge.targetHandle) ↔
        wired.sameEnds (connection edge) = true := fun wired => by
    rw [Connection.sameEnds_iff]
    rfl
  simp only [Wires, ends, restore_graph, mem_wire_iff, List.not_mem_nil, false_and, false_or]
  constructor
  · rintro ⟨wired, ⟨made, after, suffix, rfl, later⟩, same⟩
    exact ⟨made, after, suffix, same, fun next member =>
      (displaces_of_sameEnds same).symm.trans (later next member)⟩
  · rintro ⟨made, after, suffix, same, later⟩
    exact ⟨made.edge, ⟨made, after, suffix, rfl, fun next member =>
      (displaces_of_sameEnds same).trans (later next member)⟩, same⟩

/-- An edge that is wired stays unless a later one replaces it or takes it for another. -/
theorem wires_iff (member : edge ∈ saved.edges)
    (wired : (saved.bare catalog settings).rejection? catalog (connection edge) = none) :
    Wires (saved.restore catalog settings).1 edge ↔
      ¬(saved.Replaced catalog settings edge ∨ saved.Mistaken catalog settings edge) := by
  have displaced : ∀ later,
      (saved.bare catalog settings).displaces catalog later (connection edge).edge =
        ((saved.bare catalog settings).supersedes catalog later (connection edge).edge ||
          (saved.bare catalog settings).mistakes catalog later (connection edge).edge) :=
    fun later => Graph.displaces_eq rfl
  simp only [wires_iff_stands, stands_iff ((mem_admitted member).mpr wired), Replaced, Mistaken,
    ← oustedBy_or_iff, displaced]

theorem Replaced.wired (replaced : saved.Replaced catalog settings edge) :
    (saved.bare catalog settings).rejection? catalog (connection edge) = none :=
  rejection?_of_mem_admitted (OustedBy.mem replaced).1

/-- Where no node id continues another, no edge is taken for another. -/
theorem not_mistaken_of_idsApart (apart : (saved.bare catalog settings).IdsApart) :
    ¬saved.Mistaken catalog settings edge := by
  intro mistaken
  obtain ⟨member, later, laterMember, mistakes⟩ := OustedBy.mem mistaken
  have wired := rejection?_of_mem_admitted member
  have unmistaken : (saved.bare catalog settings).mistakes catalog later (connection edge).edge =
      false :=
    apart.mistakes_eq_false (rejection?_of_mem_admitted laterMember) rfl
      (Graph.source_mem_nodeIds wired) (Graph.target_mem_nodeIds wired)
  exact absurd mistakes (by simp [unmistaken])

theorem mem_droppedEdges_iff (member : edge ∈ saved.edges) :
    edge ∈ (saved.restore catalog settings).2.droppedEdges ↔
      joins (saved.bare catalog settings).nodeIds edge = false := by
  rw [restore_report, wire_dropped, List.mem_filter, Bool.not_eq_true']
  exact and_iff_right member

theorem mem_rejectedEdges_iff (member : edge ∈ saved.edges) :
    (∃ reason, ⟨edge, reason⟩ ∈ (saved.restore catalog settings).2.rejectedEdges) ↔
      joins (saved.bare catalog settings).nodeIds edge = true ∧
        (saved.bare catalog settings).rejection? catalog (connection edge) ≠ none := by
  rw [restore_report, wire_rejected, ← Option.isSome_iff_ne_none, Option.isSome_iff_exists]
  simp only [List.mem_filterMap, List.mem_filter, Option.map_eq_some_iff, RejectedEdge.mk.injEq]
  constructor
  · rintro ⟨reason, _, ⟨-, joined⟩, _, refused, rfl, rfl⟩
    exact ⟨joined, _, refused⟩
  · rintro ⟨joined, reason, refused⟩
    exact ⟨reason, edge, ⟨member, joined⟩, reason, refused, rfl, rfl⟩

/-- An edge is listed exactly if it is not wired. -/
theorem listed_iff (member : edge ∈ saved.edges) :
    (edge ∈ (saved.restore catalog settings).2.droppedEdges ∨
      ∃ reason, ⟨edge, reason⟩ ∈ (saved.restore catalog settings).2.rejectedEdges) ↔
      (saved.bare catalog settings).rejection? catalog (connection edge) ≠ none := by
  rw [mem_droppedEdges_iff member, mem_rejectedEdges_iff member]
  cases joined : joins (saved.bare catalog settings).nodeIds edge with
  | true => simp
  | false =>
    have refused : (saved.bare catalog settings).rejection? catalog (connection edge) ≠ none := by
      intro wired
      rw [joins_of_admitted wired] at joined
      exact Bool.noConfusion joined
    simp [refused]

/-- An edge that no later one takes for another is accounted for, unless a later one replaces it. So
with a clean report the graph has exactly the edges that are not replaced. -/
theorem restore_accounts (saved : SavedGraph) (catalog : Catalog) (settings : Settings)
    (edge : SavedEdge) (member : edge ∈ saved.edges)
    (unmistaken : ¬saved.Mistaken catalog settings edge) :
    (saved.Accounted catalog settings edge ↔ ¬saved.Replaced catalog settings edge) ∧
      ((saved.restore catalog settings).2.isClean = true →
        (Wires (saved.restore catalog settings).1 edge ↔
          ¬saved.Replaced catalog settings edge)) := by
  have stays : (saved.bare catalog settings).rejection? catalog (connection edge) = none →
      (Wires (saved.restore catalog settings).1 edge ↔ ¬saved.Replaced catalog settings edge) := by
    intro wired
    rw [wires_iff member wired, or_iff_left unmistaken]
  constructor
  · rw [Accounted, ← or_assoc, listed_iff member]
    by_cases wired : (saved.bare catalog settings).rejection? catalog (connection edge) = none
    · rw [stays wired]
      exact or_iff_right fun listed => listed wired
    · exact iff_of_true (.inl wired) fun replaced => wired replaced.wired
  · intro clean
    refine stays (Decidable.not_not.mp fun refused => ?_)
    -- A clean report lists no edge.
    rw [← ne_eq, ← listed_iff member] at refused
    simp only [ImportReport.isClean, Bool.and_eq_true, List.isEmpty_iff] at clean
    obtain ⟨⟨⟨⟨dropped, rejected⟩, -⟩, -⟩, -⟩ := clean
    simp [dropped, rejected] at refused

/-- Of two edges into an input for one edge the first is neither listed nor in the graph, and the
report is clean. -/
theorem not_accounted_first :
    let first : SavedEdge := ⟨none, "s", "x", none, some "a"⟩
    let saved : SavedGraph :=
      { nodes := [⟨some "s", "rsi", none, .empty, ""⟩, ⟨some "t", "ema", none, .empty, ""⟩,
          ⟨some "x", "less_than", none, .empty, ""⟩]
        edges := [first, ⟨none, "t", "x", none, some "a"⟩] }
    first ∈ saved.edges ∧ (saved.restore .builtIn .standard).2.isClean = true ∧
      ¬saved.Accounted .builtIn .standard first := by
  intro first saved
  have dropped : (saved.restore .builtIn .standard).2.droppedEdges = [] := by decide +kernel
  have rejected : (saved.restore .builtIn .standard).2.rejectedEdges = [] := by decide +kernel
  have edges : (saved.restore .builtIn .standard).1.edges.map (·.source) = ["t"] := by
    decide +kernel
  refine ⟨List.mem_cons_self, by decide +kernel, ?_⟩
  rintro (listed | ⟨reason, listed⟩ | ⟨wired, member, source, -⟩)
  · rw [dropped] at listed
    exact List.not_mem_nil listed
  · rw [rejected] at listed
    exact List.not_mem_nil listed
  · have present := List.mem_map_of_mem (f := (·.source)) member
    rw [edges, source] at present
    exact absurd present (by decide)

/-- One input fed three times: the first edge is made again by the last, and the second is replaced
for good. -/
theorem accounts_fed_again :
    let again : SavedEdge := ⟨none, "s", "x", none, some "a"⟩
    let between : SavedEdge := ⟨none, "t", "x", some "", some "a"⟩
    let saved : SavedGraph :=
      { nodes := [⟨some "s", "rsi", none, .empty, ""⟩, ⟨some "t", "ema", none, .empty, ""⟩,
          ⟨some "x", "less_than", none, .empty, ""⟩]
        edges := [again, between, again] }
    saved.Accounted .builtIn .standard again ∧ ¬saved.Accounted .builtIn .standard between := by
  intro again between saved
  have wired : admitted .builtIn (saved.bare .builtIn .standard) saved.edges =
      [connection again, connection between, connection again] := by decide +kernel
  have unmistaken : ∀ edge ∈ saved.edges, ¬saved.Mistaken .builtIn .standard edge := by
    -- No input of the graph takes several edges.
    have single : ∀ later ∈ admitted .builtIn (saved.bare .builtIn .standard) saved.edges,
        (saved.bare .builtIn .standard).acceptsMultiple .builtIn later.target later.targetHandle =
          false := by
      rw [wired]
      decide +kernel
    intro edge member mistaken
    obtain ⟨-, later, inside, mistakes⟩ := OustedBy.mem mistaken
    simp [Graph.mistakes, single later inside] at mistakes
  have remade : ¬saved.Replaced .builtIn .standard again := by
    refine (stands_iff ?_).mp ⟨connection again, [], ?_, by decide, by simp⟩
    · rw [wired]
      exact List.mem_cons_self
    · rw [wired]
      exact ⟨[connection again, connection between], rfl⟩
  have replaced : saved.Replaced .builtIn .standard between := by
    refine ⟨[connection again], connection again, [], ?_, List.suffix_refl _, by decide +kernel,
      by decide⟩
    rw [wired]
    exact List.suffix_cons _ _
  have accounts := fun edge member =>
    saved.restore_accounts .builtIn .standard edge member (unmistaken edge member)
  refine ⟨(accounts again (by simp [saved])).1.mpr remade, fun accounted => ?_⟩
  exact (accounts between (by simp [saved])).1.mp accounted replaced

end SignalGraph.SavedGraph
