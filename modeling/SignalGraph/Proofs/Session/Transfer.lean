import SignalGraph.Proofs.Document.Stable
import SignalGraph.Proofs.Document.Text
import SignalGraph.Session.Basic

/-! A draft that one session exports and another imports.

An import takes over what the document has and keeps the rest of the old draft. An export always has
a description, and a name if the draft could be saved, so only an empty configuration leaves room
for the old one.
-/

set_option autoImplicit false

namespace SignalGraph

/-- No object in the draft begins with the key that is reserved for embedded texts. -/
def Draft.Plain (draft : Draft) : Prop :=
  (∀ node ∈ draft.graph.nodes, node.parameters.toTree.Plain) ∧ draft.config.toTree.Plain

instance (draft : Draft) : Decidable draft.Plain := inferInstanceAs (Decidable (_ ∧ _))

/-- The document of a draft that is accepted at all is read as that document. -/
theorem Draft.parse_document {draft : Draft} (plain : draft.Plain) {again : Document}
    (accepted : Document.parse draft.document.pretty = .ok again) :
    Document.parse draft.document.pretty = .ok draft.document := by
  have read := Tree.read?_indented draft.document.toTree
  obtain ⟨finite, shallow⟩ := Document.fits_of_parse_eq_ok read accepted
  refine (Document.parse_eq_ok_iff read).mpr ⟨finite, shallow, ?_, plain.2⟩
  exact List.forall_mem_map.mpr plain.1

/-- The draft with the configuration of an older one, if it has none of its own. -/
def Draft.orConfig (draft before : Draft) : Draft :=
  { draft with config := if draft.config.isEmpty then before.config else draft.config }

theorem Draft.orConfig_eq_self_iff (draft before : Draft) :
    draft.orConfig before = draft ↔ draft.config = .empty → before.config = .empty := by
  obtain ⟨name, description, graph, config, isPublic⟩ := draft
  cases emptied : config.isEmpty with
  | false =>
    have held : config ≠ .empty := by rintro rfl; cases emptied
    simp [orConfig, emptied, held]
  | true =>
    cases (KeyMap.isEmpty_iff config).mp emptied
    simp [orConfig, emptied]

namespace Session

/-- Import a text, and confirm it where a confirmation is required. -/
def takeOver (session : Session) (text : String) : Except ImportError Session :=
  (session.importText text).map fun
    | (.imported _, next) => next
    | (.confirmationRequired, next) => (next.confirmImport true).2

theorem takeOver_eq_ok (session : Session) {text : String} {document : Document}
    (accepted : Document.parse text = .ok document) :
    ∃ next, session.takeOver text = .ok next ∧
      next.draft = mergeImport session.draft
        (document.restore session.catalog session.settings).1 document := by
  simp only [takeOver, importText, accepted, importDocument]
  cases session.hasUnsavedChanges with
  | true => exact ⟨_, rfl, rfl⟩
  | false => exact ⟨_, rfl, rfl⟩

/-- An import of the document of a draft that has a name. -/
theorem mergeImport_document (before draft : Draft) (named : isBlankText draft.name = false) :
    mergeImport before draft draft.document = draft.orConfig before := by
  simp [mergeImport, named, Draft.document, Draft.orConfig]

theorem named_of_obstacle? {session : Session} (ready : session.obstacle? = none) :
    isBlankText session.draft.name = false := by
  unfold obstacle? Draft.obstacle? at ready
  split at ready
  · cases ready
  · rename_i named
    exact Bool.eq_false_iff.mpr named

/-- A draft that was loaded, may be saved and is accepted once exported is taken over by any session
over the same catalog. Only an empty configuration is not: it leaves the one that was there. -/
theorem takeOver_export {first loaded other : Session} {strategyId : Option Int}
    {document : Document} {report : ImportReport}
    (loads : first.load strategyId document = (report, loaded))
    (catalog : other.catalog = first.catalog) (ready : loaded.obstacle? = none)
    (accepted : ∃ again, Document.parse loaded.document.pretty = .ok again)
    (plain : loaded.draft.Plain) :
    ∃ next, other.takeOver loaded.document.pretty = .ok next ∧
      next.draft = loaded.draft.orConfig other.draft ∧
      (next.draft = loaded.draft ↔
        loaded.draft.config = .empty → other.draft.config = .empty) := by
  obtain ⟨again, read⟩ := accepted
  have same : Document.parse loaded.document.pretty = .ok loaded.document :=
    Draft.parse_document plain read
  obtain ⟨next, taken, result⟩ := other.takeOver_eq_ok same
  have restorable : loaded.draft.graph.Restorable first.catalog := by
    cases loads
    exact SavedGraph.restorable_restore document.graph
  have restored : (loaded.document.restore other.catalog other.settings).1 = loaded.draft := by
    rw [catalog]
    exact congrArg Prod.fst (Draft.restore_document restorable)
  have merged : next.draft = loaded.draft.orConfig other.draft := by
    rw [result, restored]
    exact mergeImport_document _ _ (named_of_obstacle? ready)
  exact ⟨next, taken, merged, merged ▸ loaded.draft.orConfig_eq_self_iff other.draft⟩

/-- A session with changes of its own takes over another draft as it is. -/
theorem takeOver_export_unsaved :
    let document : Document :=
      { name := "Breakout", description := none
        graph := { nodes := [⟨some "out", "signal_output", some ⟨0.0, 0.0⟩, .empty, ""⟩]
                   edges := [] }
        config := .ofList [("timeframe", .string "1h")], isPublic := true }
    let loaded := ((new .builtIn .standard).load none document).2
    let other := ((new .builtIn .standard).dispatch "" (.setConfig "leverage" (.string "2"))).2
    loaded.obstacle? = none ∧ other.hasUnsavedChanges = true ∧
      (∃ again, Document.parse loaded.document.pretty = .ok again) ∧ loaded.draft.Plain ∧
      ∃ next, other.takeOver loaded.document.pretty = .ok next ∧ next.draft = loaded.draft := by
  intro document loaded other
  have portable : loaded.document.Portable (.valued Json.ofText?) := by decide +kernel
  have read := (Document.parse_eq_ok_iff (Tree.read?_indented loaded.document.toTree)).mpr portable
  have ready : loaded.obstacle? = none := by decide +kernel
  have plain : loaded.draft.Plain := by decide +kernel
  have configured : loaded.draft.config.isEmpty = false := by decide +kernel
  have loads : (new .builtIn .standard).load none document = (_, loaded) := (Prod.eta _).symm
  have catalog : other.catalog = (new .builtIn .standard).catalog := by
    simp only [other, dispatch, withConfig]
  obtain ⟨next, taken, -, whole⟩ := takeOver_export loads catalog ready ⟨_, read⟩ plain
  refine ⟨ready, by decide +kernel, ⟨_, read⟩, plain, next, taken, whole.mpr fun empty => ?_⟩
  rw [empty] at configured
  cases configured

/-- The configuration of the old draft stays where the new one has none. -/
theorem takeOver_keeps_config :
    let document : Document :=
      { name := "Breakout", description := none
        graph := { nodes := [⟨some "out", "signal_output", some ⟨0.0, 0.0⟩, .empty, ""⟩]
                   edges := [] }
        config := .empty, isPublic := false }
    let loaded := ((new .builtIn .standard).load none document).2
    let other := ((new .builtIn .standard).dispatch "" (.setConfig "leverage" (.string "2"))).2
    Document.parse document.pretty = .ok document ∧ loaded.obstacle? = none ∧
      (∀ node ∈ loaded.document.graph.nodes, node.IsFinite) ∧
      Document.parse loaded.document.pretty = .ok loaded.document ∧
      ∃ next, other.takeOver loaded.document.pretty = .ok next ∧ next.draft ≠ loaded.draft := by
  intro document loaded other
  have portable : document.Portable (.valued Json.ofText?) := by decide +kernel
  have exported : loaded.document.Portable (.valued Json.ofText?) := by decide +kernel
  have accepted := (Document.parse_eq_ok_iff (Tree.read?_indented document.toTree)).mpr portable
  have read := (Document.parse_eq_ok_iff (Tree.read?_indented loaded.document.toTree)).mpr exported
  obtain ⟨next, taken, merged⟩ := other.takeOver_eq_ok read
  refine ⟨accepted, by decide +kernel, exported.finite, read, next, taken, fun same => ?_⟩
  have kept : next.draft.config.contains "leverage" = true := by
    rw [merged]
    decide +kernel
  have none : loaded.draft.config.contains "leverage" = false := by decide +kernel
  rw [same, none] at kept
  cases kept

end Session

end SignalGraph
