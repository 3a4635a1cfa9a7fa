import SignalGraph.Proofs.Graph.Replacement
import SignalGraph.Proofs.Session.Graphs

/-! The edges in the graphs of a session, as they are told by their ids, and what a connection makes
of them.
-/

set_option autoImplicit false

namespace SignalGraph

/-- In all graphs of a session an id stands for its edge exactly if no other edge has it. All ids do
where no node id continues another after a dash, as with made ids; a document may bring ids of which
one continues another. -/
theorem Editing.reaches_edgeIdentity {catalog : Catalog} {settings : Settings} {state : Editing}
    (reached : (start catalog settings).Reaches Fresh state) :
    state.session.Everywhere Graph.EdgeIdentity := by
  have everywhere := reached.everywhere (Graph.settled_maintained fun _ _ fresh => fresh)
  exact ⟨everywhere.draft.edgeIdentity, fun snapshot member =>
    (everywhere.snapshots snapshot member).edgeIdentity⟩

/-- A source wired to the handle `a` of the node `x` and to the node `x-a`. -/
def Document.sharedEdgeId : Document :=
  { name := "", description := none, config := .empty, isPublic := false
    graph :=
      { nodes := [⟨some "s", "rsi", none, .empty, ""⟩, ⟨some "x", "less_than", none, .empty, ""⟩,
          ⟨some "x-a", "not", none, .empty, ""⟩]
        edges := [⟨none, "s", "x", none, some "a"⟩, ⟨none, "s", "x-a", none, none⟩] } }

/-- Two edges of one imported document share an id, which stands for neither of them. -/
theorem Editing.not_identifies_sharedEdgeId :
    let state := (start .builtIn .standard).step (.load none .sharedEdgeId)
    (start .builtIn .standard).Reaches Fresh state ∧
      state.session.draft.graph.edges.map (·.id) = ["edge-s-x-a", "edge-s-x-a"] ∧
      ¬∀ edge ∈ state.session.draft.graph.edges, state.session.draft.graph.Identifies edge := by
  intro state
  have reached : (start .builtIn .standard).Reaches Fresh state := .step .refl trivial
  have ids : state.session.draft.graph.edges.map (·.id) = ["edge-s-x-a", "edge-s-x-a"] := by
    decide +kernel
  refine ⟨reached, ids, fun identified => ?_⟩
  have distinct := (reaches_edgeIdentity reached).draft.distinct.mp identified
  rw [ids] at distinct
  exact absurd distinct (by decide)

/-! ## Connecting -/

/-- Imported edges go between nodes, and edits add none that do not. -/
theorem Graph.joined_maintained {Made : Graph → String → Prop} {catalog : Catalog}
    {settings : Settings} : Maintained Made catalog settings Joined where
  empty := (settled_empty : empty.Settled catalog).joined
  edited joined edited := joined.edited edited
  restored saved :=
    have settled : (saved.restore catalog settings).1.Settled catalog := saved.restore_settled
    settled.joined

/-- Of a connection that the rules refuse a session keeps nothing. One that they allow extends the
graph of the draft, and what it takes away is superseded or mistaken for that because of its id. -/
theorem Editing.reaches_connects {catalog : Catalog} {settings : Settings} {state : Editing}
    (reached : (start catalog settings).Reaches Any state) :
    state.session.Everywhere (fun graph => ∀ connection edge next,
      graph.connect catalog connection = .ok (edge, next) →
        graph.Extended catalog connection edge next) ∧
    ∀ newId connection,
      (∀ reason, state.session.draft.graph.connect catalog connection = .error reason →
        state.session.dispatch newId (.connect connection) = (.rejected reason, state.session)) ∧
      ∀ edge next, state.session.draft.graph.connect catalog connection = .ok (edge, next) →
        state.session.dispatch newId (.connect connection) =
          (.edgeAdded edge, state.session.edit next) := by
  have everywhere := reached.brings_any.everywhere Graph.joined_maintained
  obtain ⟨sameCatalog, -⟩ := reached.brings_any.surroundings
  refine ⟨⟨fun _ _ _ taken => everywhere.draft.extended taken, fun snapshot member _ _ _ taken =>
    (everywhere.snapshots snapshot member).extended taken⟩, fun newId connection => ⟨?_, ?_⟩⟩
  · intro reason refused
    simp only [Session.dispatch, sameCatalog, refused]
  · intro edge next taken
    simp only [Session.dispatch, sameCatalog, taken]

/-- The edge from a source to the handle `a` of the node `x` goes when the source is wired to the
node `x-a` as well. -/
theorem Editing.connects_mistaken :
    let document : Document :=
      { name := "", description := none, config := .empty, isPublic := false
        graph :=
          { nodes := [⟨some "s", "rsi", none, .empty, ""⟩,
              ⟨some "x", "less_than", none, .empty, ""⟩, ⟨some "x-a", "and", none, .empty, ""⟩]
            edges := [⟨none, "s", "x", none, some "a"⟩] } }
    let entering : Connection := ⟨"s", none, "x", some "a"⟩
    let connection : Connection := ⟨"s", none, "x-a", none⟩
    let state := (start .builtIn .standard).step (.load none document)
    let graph := state.session.draft.graph
    let next : Graph := { graph with edges := [connection.edge] }
    (start .builtIn .standard).Reaches Any state ∧ graph.edges = [entering.edge] ∧
      entering.sameTarget connection = false ∧
      state.session.dispatch "" (.connect connection) =
        (.edgeAdded connection.edge, state.session.edit next) ∧
      next.edges ≠
        graph.edges.filter (fun old => !graph.supersedes .builtIn connection old) ++
          [connection.edge] := by
  intro document entering connection state graph next
  have reached : (start .builtIn .standard).Reaches Any state := .step .refl trivial
  have edges : graph.edges = [entering.edge] := by decide +kernel
  have mistaken : graph.mistakes .builtIn connection entering.edge = true := by decide +kernel
  have remaining :
      graph.edges.filter (fun old => !graph.displaces .builtIn connection old) = [] := by
    decide +kernel
  have taken : graph.connect .builtIn connection = .ok (connection.edge, next) := by
    refine Graph.connect_eq_ok_iff.mpr ⟨by decide +kernel, rfl, ?_⟩
    rw [remaining]
    rfl
  obtain ⟨everywhere, connects⟩ := reaches_connects reached
  have extended := everywhere.draft connection connection.edge next taken
  refine ⟨reached, edges, by decide, (connects "" connection).2 _ _ taken, fun asClaimed => ?_⟩
  have member : entering.edge ∈ graph.edges := by
    rw [edges]
    exact List.mem_singleton_self _
  have unmistaken := extended.kept.mp asClaimed entering.edge member
  rw [mistaken] at unmistaken
  exact Bool.noConfusion unmistaken

end SignalGraph
