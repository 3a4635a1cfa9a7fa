import SignalGraph.Proofs.Graph.Equality
import SignalGraph.Proofs.Session.Edges
import SignalGraph.Proofs.Session.Saving

/-! When a session reports unsaved changes.

The baseline is the draft of some state that was loaded, imported or saved, and as well formed as any
draft. A session that reports no changes therefore holds its baseline but for the order of nodes and
edges. The converse needs ids that tell the edges apart: where two edges share one, even a draft that
was loaded just now counts as changed.
-/

set_option autoImplicit false

namespace SignalGraph

/-! ## Comparing drafts -/

namespace Draft

/-- Two drafts are the same but for the order of nodes and edges. -/
structure Rearranges (draft other : Draft) : Prop where
  name : draft.name = other.name
  description : draft.description = other.description
  config : (draft.config == other.config) = true
  isPublic : draft.isPublic = other.isPublic
  graph : draft.graph.Rearranges other.graph

theorem differsFrom_eq_false_iff {draft baseline : Draft} :
    draft.differsFrom baseline = false ↔
      baseline.name = draft.name ∧ baseline.description = draft.description ∧
      (baseline.config == draft.config) = true ∧ baseline.isPublic = draft.isPublic ∧
      baseline.graph.sameStructure draft.graph = true := by
  simp [differsFrom, bne, and_assoc]

/-- A draft counts as unchanged if it rearranges the baseline, and the baseline's edges have ids of
their own. -/
theorem differsFrom_iff_rearranges {catalog : Catalog} {draft baseline : Draft}
    (settled : baseline.graph.Settled catalog) :
    draft.differsFrom baseline = false ↔
      baseline.Rearranges draft ∧ (baseline.graph.edges.map (·.id)).Nodup := by
  rw [differsFrom_eq_false_iff, Graph.sameStructure_iff settled.distinct settled.edges_nodup]
  constructor
  · rintro ⟨name, description, config, isPublic, graph, distinct⟩
    exact ⟨⟨name, description, config, isPublic, graph⟩, distinct⟩
  · rintro ⟨⟨name, description, config, isPublic, graph⟩, distinct⟩
    exact ⟨name, description, config, isPublic, graph, distinct⟩

theorem differsFrom_self_iff {catalog : Catalog} {draft : Draft}
    (settled : draft.graph.Settled catalog) :
    draft.differsFrom draft = false ↔
      draft.graph.IsNumeric ∧ (draft.graph.edges.map (·.id)).Nodup := by
  rw [differsFrom_iff_rearranges settled, ← draft.graph.rearranges_self_iff]
  exact and_congr_left fun _ => ⟨Rearranges.graph, fun graph => ⟨rfl, rfl, BEq.rfl, rfl, graph⟩⟩

end Draft

/-! ## After loading, importing and saving -/

namespace Session

variable {session next : Session}

/-- Nothing is unsaved, and the session can be left without asking. -/
def IsClean (session : Session) : Prop :=
  session.hasUnsavedChanges = false ∧ session.exitNeedsConfirmation = false

theorem isClean_iff : session.IsClean ↔ session.hasUnsavedChanges = false := and_self_iff

/-- The session is clean unless a NaN or a shared id makes its draft differ from itself. -/
def CleanUnlessAmbiguous (session : Session) : Prop :=
  session.IsClean ↔
    session.draft.graph.IsNumeric ∧ (session.draft.graph.edges.map (·.id)).Nodup

theorem cleanUnlessAmbiguous_of_baseline {catalog : Catalog}
    (settled : session.draft.graph.Settled catalog) (baseline : session.baseline = some session.draft) :
    session.CleanUnlessAmbiguous := by
  rw [CleanUnlessAmbiguous, isClean_iff, hasUnsavedChanges, Draft.hasUnsavedChanges, baseline,
    Option.any_some]
  exact Draft.differsFrom_self_iff settled

theorem load_clean (session : Session) (strategyId : Option Int) (document : Document) :
    (session.load strategyId document).2.CleanUnlessAmbiguous :=
  cleanUnlessAmbiguous_of_baseline (document.graph.restore_settled) rfl

theorem applyImport_clean (session : Session) (document : Document) :
    (session.applyImport document).2.CleanUnlessAmbiguous :=
  cleanUnlessAmbiguous_of_baseline (document.graph.restore_settled) rfl

theorem importDocument_clean {document : Document} {report : ImportReport}
    (imported : session.importDocument document = (.imported report, next)) :
    next.CleanUnlessAmbiguous := by
  unfold importDocument at imported
  split at imported
  · cases imported
  · cases imported
    exact session.applyImport_clean document

theorem importText_clean {text : String} {report : ImportReport}
    (imported : session.importText text = .ok (.imported report, next)) :
    next.CleanUnlessAmbiguous := by
  unfold importText at imported
  split at imported
  · exact importDocument_clean (Except.ok.inj imported)
  · cases imported

theorem confirmImport_clean {report : ImportReport}
    (imported : session.confirmImport true = (some report, next)) :
    next.CleanUnlessAmbiguous := by
  unfold confirmImport at imported
  split at imported
  · cases imported
  · rename_i document _
    cases imported
    exact applyImport_clean { session with parked := none } document

theorem completeSave_clean {catalog : Catalog} {ticket : SaveTicket}
    (settled : session.draft.graph.Settled catalog)
    (begun : session.beginSave = .ok (ticket, next)) (id : Int) :
    (next.completeSave ticket (.ok id)).2.CleanUnlessAmbiguous := by
  obtain ⟨-, -, rfl, rfl⟩ := beginSave_eq_ok_iff.mp begun
  rw [completeSave_ok (by simp [isCurrent])]
  exact cleanUnlessAmbiguous_of_baseline settled rfl

/-! ## Where baselines come from -/

theorem Dispatched.baseline {Made : String → Prop} {command : Command}
    (dispatched : session.Dispatched Made command next) : next.baseline = session.baseline := by
  cases dispatched <;> rfl

theorem Imported.baseline (imported : session.Imported next) :
    next.baseline = session.baseline ∨ next.baseline = some next.draft := by
  cases imported with
  | parked => exact .inl rfl
  | applied => exact .inr rfl

/-- A step keeps the baseline, makes the draft the baseline, or brings back the draft of a ticket. -/
theorem step_baseline (session : Session) (operation : Operation) :
    (session.step operation).baseline = session.baseline ∨
    (session.step operation).baseline = some (session.step operation).draft ∨
    ∃ ticket result, operation = .completeSave ticket result ∧
      (session.step operation).baseline = some ticket.snapshot := by
  cases operation with
  | command newId command => exact .inl (session.dispatched_any newId command).baseline
  | load strategyId document => exact .inr (.inl rfl)
  | importDocument document =>
    exact (session.imported_importDocument document).baseline.imp_right .inl
  | importText text => exact (session.imported_importText text).baseline.imp_right .inl
  | confirmImport confirmed =>
    exact (session.imported_confirmImport confirmed).baseline.imp_right .inl
  | beginSave =>
    refine .inl ?_
    simp only [step]
    split
    case h_1 begun =>
      obtain ⟨-, -, -, rfl⟩ := beginSave_eq_ok_iff.mp begun
      rfl
    case h_2 => rfl
  | completeSave ticket result =>
    simp only [step]
    cases current : session.isCurrent ticket with
    | false => exact .inl (by rw [completeSave_of_stale current])
    | true =>
      cases result with
      | ok id => exact .inr (.inr ⟨ticket, .ok id, rfl, by rw [completeSave_ok current]⟩)
      | error error => exact .inl (by rw [completeSave_error current])
  | attachTask task => exact .inl rfl
  | stopTasks => exact .inl rfl

end Session

namespace Editing

variable {catalog : Catalog} {settings : Settings} {state : Editing} {operation : Operation}

/-- A save is completed only with a ticket that was handed out. -/
def Issued (state : Editing) : Operation → Prop
  | .completeSave ticket _ => ticket ∈ state.tickets
  | _ => True

/-- Nodes are added under ids that are not taken, and saves come back with tickets handed out. -/
def Proper (state : Editing) (operation : Operation) : Prop :=
  state.Fresh operation ∧ state.Issued operation

/-- The graphs that the session may take for saved have a property. -/
structure Backed (P : Graph → Prop) (state : Editing) : Prop where
  baseline : ∃ baseline, state.session.baseline = some baseline ∧ P baseline.graph
  tickets : ∀ ticket ∈ state.tickets, P ticket.snapshot.graph

theorem Backed.step {P : Graph → Prop} (backed : state.Backed P) (issued : state.Issued operation)
    (before : P state.session.draft.graph) (after : P (state.step operation).session.draft.graph) :
    (state.step operation).Backed P where
  baseline := by
    rcases state.session.step_baseline operation with kept | drafted | ⟨ticket, result, rfl, back⟩
    · obtain ⟨baseline, held, holds⟩ := backed.baseline
      exact ⟨baseline, kept.trans held, holds⟩
    · exact ⟨_, drafted, after⟩
    · exact ⟨_, back, backed.tickets ticket issued⟩
  tickets ticket member := by
    rcases mem_tickets_step.mp member with handed | old
    · -- A new ticket freezes the draft as it is before the step.
      obtain ⟨-, begun⟩ := Session.ticket?_eq_some_iff.mp handed
      obtain ⟨-, -, rfl, -⟩ := Session.beginSave_eq_ok_iff.mp begun
      exact before
    · exact backed.tickets ticket old

/-- What is maintained holds of the baseline and of all tickets in every state of every run. -/
theorem Reaches.backed {P : Graph → Prop}
    (maintained : Graph.Maintained (fun graph id => id ∉ graph.nodeIds) catalog settings P)
    (reached : (start catalog settings).Reaches Proper state) : state.Backed P := by
  induction reached with
  | refl => exact ⟨⟨.empty, rfl, maintained.empty⟩, fun _ member => absurd member List.not_mem_nil⟩
  | step reached proper ih =>
    have fresh := reached.mono fun _ _ proper => proper.1
    have before := fresh.everywhere maintained
    have after := (fresh.step proper.1).everywhere maintained
    exact ih.step proper.2 before.draft after.draft

end Editing

/-! ## What a session reports -/

namespace Editing

variable {catalog : Catalog} {settings : Settings} {state : Editing}

/-- A session that was just loaded, imported into or saved is clean, unless its draft has a NaN or
two edges under one id. -/
theorem cleanUnlessAmbiguous (reached : (start catalog settings).Reaches Fresh state) :
    (∀ strategyId document, (state.session.load strategyId document).2.CleanUnlessAmbiguous) ∧
    (∀ document report next, state.session.importDocument document = (.imported report, next) →
      next.CleanUnlessAmbiguous) ∧
    (∀ text report next, state.session.importText text = .ok (.imported report, next) →
      next.CleanUnlessAmbiguous) ∧
    (∀ report next, state.session.confirmImport true = (some report, next) →
      next.CleanUnlessAmbiguous) ∧
    (∀ ticket next id, state.session.beginSave = .ok (ticket, next) →
      (next.completeSave ticket (.ok id)).2.CleanUnlessAmbiguous) := by
  have everywhere := reached.everywhere (Graph.settled_maintained fun _ _ fresh => fresh)
  exact ⟨state.session.load_clean, fun _ _ _ => Session.importDocument_clean,
    fun _ _ _ => Session.importText_clean, fun _ _ => Session.confirmImport_clean,
    fun _ _ id begun => Session.completeSave_clean everywhere.draft begun id⟩

/-- A document in which two edges share an id counts as changed as soon as it is loaded. -/
theorem not_isClean_sharedEdgeId :
    let loaded := ((start .builtIn .standard).session.load none .sharedEdgeId).2
    loaded.draft.graph.IsNumeric ∧ loaded.CleanUnlessAmbiguous ∧ ¬loaded.IsClean := by
  intro loaded
  have clean : loaded.CleanUnlessAmbiguous := (cleanUnlessAmbiguous .refl).1 none .sharedEdgeId
  have shared : ¬(loaded.draft.graph.edges.map (·.id)).Nodup := by decide +kernel
  exact ⟨by decide +kernel, clean, fun isClean => shared (clean.mp isClean).2⟩

/-- No unsaved change goes unnoticed: a session reports none exactly if its draft rearranges the
baseline and every edge of that has an id of its own. Only then it can be left without asking, and a
document overwrites the draft when it is imported. -/
theorem hasUnsavedChanges_eq_false_iff (reached : (start catalog settings).Reaches Proper state) :
    (state.session.hasUnsavedChanges = false ↔
      ∃ baseline, state.session.baseline = some baseline ∧
        baseline.Rearranges state.session.draft ∧ (baseline.graph.edges.map (·.id)).Nodup) ∧
    (state.session.exitNeedsConfirmation = false ↔ state.session.hasUnsavedChanges = false) ∧
    ∀ document, (∃ report next, state.session.importDocument document = (.imported report, next)) ↔
      state.session.hasUnsavedChanges = false := by
  obtain ⟨baseline, held, settled⟩ :=
    (reached.backed (Graph.settled_maintained fun _ _ fresh => fresh)).baseline
  refine ⟨?_, Iff.rfl, fun document => ?_⟩
  · rw [Session.hasUnsavedChanges, Draft.hasUnsavedChanges, held, Option.any_some,
      Draft.differsFrom_iff_rearranges settled]
    simp
  · unfold Session.importDocument
    cases state.session.hasUnsavedChanges <;> simp

/-- Wiring a fork anew puts its first edge behind the second, which is no change. -/
theorem rearranges_rewired :
    let fork : Document :=
      { name := "", description := none, config := .empty, isPublic := false
        graph :=
          { nodes := [⟨some "s", "rsi", none, .empty, ""⟩, ⟨some "x", "not", none, .empty, ""⟩,
              ⟨some "y", "not", none, .empty, ""⟩]
            edges := [⟨none, "s", "x", none, none⟩, ⟨none, "s", "y", none, none⟩] } }
    let state := ((start .builtIn .standard).step (.load none fork)).step
      (.command "" (.connect ⟨"s", none, "x", none⟩))
    state.session.draft.graph.edges.map (·.id) = ["edge-s-y", "edge-s-x"] ∧
      state.session.hasUnsavedChanges = false ∧
      (start .builtIn .standard).Reaches Proper state ∧
      ∃ baseline, state.session.baseline = some baseline ∧
        baseline.Rearranges state.session.draft ∧ (baseline.graph.edges.map (·.id)).Nodup := by
  intro fork state
  have reached : (start .builtIn .standard).Reaches Proper state :=
    .step (.step .refl ⟨trivial, trivial⟩) ⟨nofun, trivial⟩
  have unchanged : state.session.hasUnsavedChanges = false := by decide +kernel
  exact ⟨by decide +kernel, unchanged, reached,
    (hasUnsavedChanges_eq_false_iff reached).1.mp unchanged⟩

end Editing

end SignalGraph
