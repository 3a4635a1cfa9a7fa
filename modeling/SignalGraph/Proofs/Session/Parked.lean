import SignalGraph.Proofs.Session.Graphs
import SignalGraph.Proofs.Session.Saving

/-! The document that waits for a confirmation.

Loading and confirming leave nothing parked, and an import with unsaved changes parks its document.
An import that is carried out at once leaves parked what was: the document of an earlier import,
which a later confirmation still puts in the place of the draft just imported.
-/

set_option autoImplicit false

namespace SignalGraph

/-- The operation settles a parked import, or forgets it. -/
def Operation.settles : Operation → Bool
  | load _ _ | confirmImport _ => true
  | _ => false

namespace Session

variable {session next : Session}

/-- The document that an operation parks. -/
def parks? (session : Session) : Operation → Option Document
  | .importDocument document => if session.hasUnsavedChanges then some document else none
  | .importText text =>
    if session.hasUnsavedChanges then (Document.parse text).toOption else none
  | _ => none

/-- An import that is carried out without asking, from a document or from a text. -/
inductive ImportsAtOnce (session next : Session) : Prop where
  | document (document : Document) (report : ImportReport)
      (imported : session.importDocument document = (.imported report, next))
  | text (text : String) (report : ImportReport)
      (imported : session.importText text = .ok (.imported report, next))

theorem Dispatched.parked {Made : String → Prop} {command : Command}
    (dispatched : session.Dispatched Made command next) : next.parked = session.parked := by
  cases dispatched <;> rfl

theorem importDocument_parked (session : Session) (document : Document) :
    (session.importDocument document).2.parked =
      (session.parks? (.importDocument document)).or session.parked := by
  unfold importDocument parks?
  cases session.hasUnsavedChanges <;> rfl

theorem importText_parked (session : Session) (text : String) :
    (session.step (.importText text)).parked =
      (session.parks? (.importText text)).or session.parked := by
  cases read : Document.parse text with
  | error error => simp [step, importText, parks?, read, Except.toOption]
  | ok document =>
    have same := session.importDocument_parked document
    simpa [step, importText, parks?, read, Except.toOption] using same

theorem confirmImport_parked (session : Session) (confirmed : Bool) :
    (session.confirmImport confirmed).2.parked = none := by
  unfold confirmImport
  cases waiting : session.parked with
  | none => exact waiting
  | some document => cases confirmed <;> rfl

theorem beginSave_parked (session : Session) :
    (session.step .beginSave).parked = session.parked := by
  simp only [step]
  split
  case h_1 begun =>
    obtain ⟨-, -, -, rfl⟩ := beginSave_eq_ok_iff.mp begun
    rfl
  case h_2 => rfl

/-- What is parked after an operation. -/
theorem step_parked (session : Session) (operation : Operation) :
    (session.step operation).parked =
      if operation.settles then none else (session.parks? operation).or session.parked := by
  cases operation with
  | command newId command => exact (session.dispatched_any newId command).parked
  | load strategyId document => rfl
  | importDocument document => exact session.importDocument_parked document
  | importText text => exact session.importText_parked text
  | confirmImport confirmed => exact session.confirmImport_parked confirmed
  | beginSave => exact session.beginSave_parked
  | completeSave ticket result => exact (completeSave_frame ticket result).2.2
  | attachTask task => rfl
  | stopTasks => rfl

/-- An import that is carried out at once changes neither what is parked nor the surroundings. -/
theorem ImportsAtOnce.keeps (imported : session.ImportsAtOnce next) :
    next.parked = session.parked ∧ next.catalog = session.catalog ∧
      next.settings = session.settings := by
  have direct : ∀ {document report}, session.importDocument document = (.imported report, next) →
      next.parked = session.parked ∧ next.catalog = session.catalog ∧
        next.settings = session.settings := by
    intro document report imported
    unfold importDocument at imported
    split at imported
    · cases imported
    · cases imported
      exact ⟨rfl, rfl, rfl⟩
  cases imported with
  | document document report imported => exact direct imported
  | text text report imported =>
    unfold importText at imported
    split at imported
    · exact direct (Except.ok.inj imported)
    · cases imported

/-- Confirming an import puts the graph of the parked document into the draft. -/
theorem confirmImport_graph {document : Document} (parked : session.parked = some document) :
    (session.confirmImport true).2.draft.graph =
      (document.restore session.catalog session.settings).1.graph := by
  simp only [confirmImport, parked]
  rfl

end Session

namespace Editing

variable {catalog : Catalog} {settings : Settings} {first state : Editing}

/-- The operation leaves alone what is parked. -/
def LeavesParked (state : Editing) (operation : Operation) : Prop :=
  operation.settles = false ∧ state.session.parks? operation = none

/-- An operation of the run parked the document, and none has settled or replaced it since. -/
def Waits (first state : Editing) (document : Document) : Prop :=
  ∃ earlier operation, first.Reaches Any earlier ∧
    earlier.session.parks? operation = some document ∧ operation.settles = false ∧
    (earlier.step operation).Reaches LeavesParked state

theorem step_parked (state : Editing) (operation : Operation) :
    (state.step operation).session.parked =
      if operation.settles then none
      else (state.session.parks? operation).or state.session.parked :=
  state.session.step_parked operation

/-- What is parked in a run that began with nothing parked are the documents that wait. -/
theorem parked_eq_some_iff (empty : first.session.parked = none)
    (reached : first.Reaches Any state) (document : Document) :
    state.session.parked = some document ↔ first.Waits state document := by
  constructor
  · intro parked
    induction reached with
    | refl => rw [empty] at parked; cases parked
    | @step before operation reached _ ih =>
      rw [step_parked] at parked
      split at parked
      case isTrue => cases parked
      case isFalse settles =>
        have unsettled := Bool.eq_false_iff.mpr settles
        cases parks : before.session.parks? operation with
        | some new =>
          rw [parks, Option.some_or] at parked
          exact ⟨before, operation, reached, parks.trans parked, unsettled, .refl⟩
        | none =>
          rw [parks, Option.none_or] at parked
          obtain ⟨earlier, parking, start, parks', unsettled', since⟩ := ih parked
          exact ⟨earlier, parking, start, parks', unsettled', since.step ⟨unsettled, parks⟩⟩
  · rintro ⟨earlier, operation, -, parks, unsettled, since⟩
    refine since.keeps (P := fun state => state.session.parked = some document) ?_ ?_
    · rintro state operation ⟨unsettled, parks⟩ parked
      rw [step_parked, unsettled, parks]
      exact parked
    · rw [step_parked, unsettled, parks]
      rfl

/-- A confirmed import leaves nothing parked. One that is carried out at once leaves nothing parked
exactly if no document of an earlier import waits; one that does is still parked afterwards, and
when it is confirmed its graph takes the place of the one just imported. -/
theorem parked_after_import (reached : (start catalog settings).Reaches Any state) :
    (∀ report next, state.session.confirmImport true = (some report, next) → next.parked = none) ∧
    ∀ next, state.session.ImportsAtOnce next →
      (next.parked = none ↔ ∀ document, ¬(start catalog settings).Waits state document) ∧
      ∀ document, (start catalog settings).Waits state document →
        next.parked = some document ∧
        (next.confirmImport true).2.draft.graph = (document.restore catalog settings).1.graph := by
  have waits := parked_eq_some_iff rfl reached
  obtain ⟨sameCatalog, sameSettings⟩ := reached.brings_any.surroundings
  refine ⟨fun report next applied => ?_, fun next imported => ?_⟩
  · rw [← state.session.confirmImport_parked true, applied]
  · obtain ⟨parked, catalogKept, settingsKept⟩ := imported.keeps
    constructor
    · rw [parked, Option.eq_none_iff_forall_ne_some]
      exact forall_congr' fun document => not_congr (waits document)
    · intro document waiting
      have held : next.parked = some document := parked.trans ((waits document).mpr waiting)
      refine ⟨held, ?_⟩
      rw [Session.confirmImport_graph held, catalogKept, settingsKept, sameCatalog, sameSettings]

/-- A document is parked while the draft has a name that was not saved. Once the name is taken back,
another document is imported at once, and the first one stays parked. -/
theorem parked_after_import_stale :
    let stale : Document :=
      { name := "Stale", description := none, config := .empty, isPublic := false
        graph := { nodes := [⟨some "old", "rsi", none, .empty, ""⟩], edges := [] } }
    let fresh : Document :=
      { name := "Fresh", description := none, config := .empty, isPublic := false
        graph := { nodes := [⟨some "new", "ema", none, .empty, ""⟩], edges := [] } }
    let named := (start .builtIn .standard).step (.command "" (.setName "Draft"))
    let state := (named.step (.importDocument stale)).step (.command "" (.setName ""))
    let next := (state.session.importDocument fresh).2
    (start .builtIn .standard).Reaches Any state ∧ state.session.ImportsAtOnce next ∧
      next.draft.graph.nodeIds = ["new"] ∧ next.parked ≠ none ∧
      (next.confirmImport true).2.draft.graph.nodeIds = ["old"] := by
  intro stale fresh named state next
  have reached : (start .builtIn .standard).Reaches Any state :=
    .step (.step (.step .refl trivial) trivial) trivial
  have unchanged : state.session.hasUnsavedChanges = false := by decide +kernel
  have imported : state.session.ImportsAtOnce next := by
    refine .document fresh (state.session.applyImport fresh).1 ?_
    simp only [next, Session.importDocument, unchanged]
    rfl
  have waiting : (start .builtIn .standard).Waits state stale :=
    (parked_eq_some_iff rfl reached stale).mp rfl
  obtain ⟨parked, graph⟩ := ((parked_after_import reached).2 next imported).2 stale waiting
  refine ⟨reached, imported, by decide +kernel, by simp [parked], ?_⟩
  rw [graph]
  decide +kernel

end Editing

end SignalGraph
