import SignalGraph.Proofs.Session.Run

/-! Saves that are begun and completed while the session goes on.

Tickets are numbered in the order in which they are handed out, and the number of saves begun only
grows. So the ticket of a save that is over, by its completion or by loading, never counts again.
-/

set_option autoImplicit false

namespace SignalGraph

namespace Session

variable {Made : String → Prop} {session next : Session} {ticket : SaveTicket}

theorem isCurrent_iff : session.isCurrent ticket = true ↔ session.saving = some ticket.number := by
  simp [isCurrent]

theorem Stepped.saves_le (stepped : session.Stepped Made next) : session.saves ≤ next.saves := by
  cases stepped with
  | begun => exact Nat.le_succ session.saves
  | _ => exact Nat.le_refl session.saves

/-- The save under way stays the same, ends, or is one just begun. -/
theorem Stepped.saving (stepped : session.Stepped Made next) :
    next.saving = session.saving ∨ next.saving = none ∨ next.saving = some (session.saves + 1) := by
  cases stepped with
  | loaded | written | failed => exact Or.inr (Or.inl rfl)
  | begun => exact Or.inr (Or.inr rfl)
  | _ => exact Or.inl rfl

theorem ticket?_eq_some_iff {operation : Operation} :
    session.ticket? operation = some ticket ↔
      operation = .beginSave ∧ session.beginSave = .ok (ticket, session.step operation) := by
  cases operation with
  | beginSave =>
    simp only [ticket?, step]
    cases session.beginSave with
    | error => simp
    | ok begun => simp [Prod.ext_iff]
  | _ => simp [ticket?]

/-- A save begins exactly when none is under way and nothing stands in the way. -/
theorem beginSave_ok_iff :
    (∃ ticket next, session.beginSave = .ok (ticket, next)) ↔
      session.saving = none ∧ session.obstacle? = none := by
  simp only [beginSave_eq_ok_iff, exists_and_left, exists_eq, and_true]

theorem step_beginSave_error {error : SaveError} (refused : session.beginSave = .error error) :
    session.step .beginSave = session ∧ session.ticket? .beginSave = none := by
  simp [step, ticket?, refused]

theorem completeSave_frame (ticket : SaveTicket) (result : Except StoreError Int) :
    (session.completeSave ticket result).2.draft = session.draft ∧
      (session.completeSave ticket result).2.history = session.history ∧
      (session.completeSave ticket result).2.parked = session.parked := by
  cases current : session.isCurrent ticket with
  | false => simp [completeSave_of_stale current]
  | true =>
    cases result with
    | ok id => simp [completeSave_ok current]
    | error error => simp [completeSave_error current]

/-- Only a success of the current ticket sets the baseline or the strategy. -/
theorem current_of_completeSave_changes {result : Except StoreError Int}
    (changes : (session.completeSave ticket result).2.baseline ≠ session.baseline ∨
      (session.completeSave ticket result).2.strategyId ≠ session.strategyId) :
    session.isCurrent ticket = true ∧ ∃ id, result = .ok id := by
  cases current : session.isCurrent ticket with
  | false => simp [completeSave_of_stale current] at changes
  | true =>
    cases result with
    | ok id => exact ⟨rfl, id, rfl⟩
    | error error => simp [completeSave_error current] at changes

theorem isCurrent_after_completeSave (ticket : SaveTicket) (result : Except StoreError Int) :
    (session.completeSave ticket result).2.isCurrent ticket = false := by
  cases current : session.isCurrent ticket with
  | false => rw [completeSave_of_stale current, current]
  | true =>
    cases result with
    | ok id => rw [completeSave_ok current]; rfl
    | error error => rw [completeSave_error current]; rfl

end Session

namespace Editing

variable {state later : Editing} {operation : Operation} {ticket : SaveTicket}

/-- Every ticket has the number of a save that was begun, and no other ticket has it. -/
structure Numbered (state : Editing) : Prop where
  bounded : ∀ ticket ∈ state.tickets, ticket.number ≤ state.session.saves
  distinct : state.tickets.Pairwise fun first second => first.number ≠ second.number

theorem stepped_any (state : Editing) (operation : Operation) :
    state.session.Stepped (fun _ => True) (state.step operation).session :=
  state.session.stepped_any operation

theorem mem_tickets_step :
    ticket ∈ (state.step operation).tickets ↔
      state.session.ticket? operation = some ticket ∨ ticket ∈ state.tickets := by
  simp [step]

theorem numbered_start (catalog : Catalog) (settings : Settings) :
    (start catalog settings).Numbered where
  bounded _ member := absurd member List.not_mem_nil
  distinct := .nil

theorem Numbered.step (numbered : state.Numbered) (operation : Operation) :
    (state.step operation).Numbered := by
  have grows := (state.stepped_any operation).saves_le
  cases handed : state.session.ticket? operation with
  | none =>
    have tickets : (state.step operation).tickets = state.tickets := by simp [Editing.step, handed]
    refine ⟨fun ticket member => ?_, tickets ▸ numbered.distinct⟩
    exact Nat.le_trans (numbered.bounded ticket (tickets ▸ member)) grows
  | some ticket =>
    -- The one step that hands out a ticket gives it a number above all others.
    obtain ⟨rfl, begun⟩ := Session.ticket?_eq_some_iff.mp handed
    obtain ⟨-, -, rfl, next⟩ := Session.beginSave_eq_ok_iff.mp begun
    have tickets : (state.step .beginSave).tickets =
        ⟨state.session.saves + 1, state.session.strategyId, state.session.document,
          state.session.draft⟩ :: state.tickets := by
      simp [Editing.step, handed]
    have saves : (state.step .beginSave).session.saves = state.session.saves + 1 :=
      congrArg Session.saves next
    constructor
    · rw [tickets, saves]
      refine List.forall_mem_cons.mpr ⟨Nat.le_refl _, fun other member => ?_⟩
      exact Nat.le_succ_of_le (numbered.bounded other member)
    · rw [tickets]
      refine List.pairwise_cons.mpr ⟨fun other member => ?_, numbered.distinct⟩
      have old := numbered.bounded other member
      exact Nat.ne_of_gt (Nat.lt_succ_of_le old)

theorem Numbered.reaches {Allowed : Editing → Operation → Prop} (numbered : state.Numbered)
    (reached : state.Reaches Allowed later) : later.Numbered :=
  reached.keeps (fun _ operation _ numbered => numbered.step operation) numbered

/-- Distinct numbers leave at most one ticket current. -/
theorem Numbered.one_current (numbered : state.Numbered) :
    (state.tickets.filter fun ticket => state.session.isCurrent ticket).length ≤ 1 := by
  have distinct := numbered.distinct.sublist
    (List.filter_sublist (p := fun ticket => state.session.isCurrent ticket))
  have under : ∀ ticket ∈ state.tickets.filter fun ticket => state.session.isCurrent ticket,
      state.session.saving = some ticket.number := fun ticket member =>
    Session.isCurrent_iff.mp (List.mem_filter.mp member).2
  cases current : state.tickets.filter fun ticket => state.session.isCurrent ticket with
  | nil => exact Nat.zero_le 1
  | cons first others =>
    cases others with
    | nil => exact Nat.le_refl 1
    | cons second rest =>
      rw [current] at distinct under
      have same : some first.number = some second.number :=
        (under first List.mem_cons_self).symm.trans
          (under second (List.mem_cons_of_mem first List.mem_cons_self))
      have different := (List.pairwise_cons.mp distinct).1 second List.mem_cons_self
      exact absurd (Option.some.inj same) different

/-- A ticket that is not current does not become so: a save that begins has a number of its own. -/
theorem Numbered.stale_step (numbered : state.Numbered) (issued : ticket ∈ state.tickets)
    (stale : state.session.isCurrent ticket = false) (operation : Operation) :
    (state.step operation).session.isCurrent ticket = false := by
  have bound := numbered.bounded ticket issued
  unfold Session.isCurrent at stale ⊢
  rcases (state.stepped_any operation).saving with same | ended | begun
  · rw [same, stale]
  · rw [ended]
    rfl
  · rw [begun, decide_eq_false_iff_not, Option.some.injEq]
    omega

theorem Numbered.stale_reaches {Allowed : Editing → Operation → Prop} (numbered : state.Numbered)
    (issued : ticket ∈ state.tickets) (stale : state.session.isCurrent ticket = false)
    (reached : state.Reaches Allowed later) : later.session.isCurrent ticket = false := by
  have kept : later.Numbered ∧ ticket ∈ later.tickets ∧ later.session.isCurrent ticket = false := by
    refine reached.keeps (P := fun state => state.Numbered ∧ ticket ∈ state.tickets ∧
      state.session.isCurrent ticket = false) ?_ ⟨numbered, issued, stale⟩
    rintro state operation - ⟨numbered, issued, stale⟩
    exact ⟨numbered.step operation, mem_tickets_step.mpr (Or.inr issued),
      numbered.stale_step issued stale operation⟩
  exact kept.2.2

/-- A ticket that a step leaves out of date has no effect ever after. -/
theorem Numbered.worthless {Allowed : Editing → Operation → Prop} (numbered : state.Numbered)
    (issued : ticket ∈ state.tickets)
    (stale : (state.step operation).session.isCurrent ticket = false)
    (reached : (state.step operation).Reaches Allowed later) :
    later.session.isCurrent ticket = false ∧
      ∀ result, (later.session.completeSave ticket result).2 = later.session := by
  have outdated := (numbered.step operation).stale_reaches
    (mem_tickets_step.mpr (Or.inr issued)) stale reached
  exact ⟨outdated, Session.completeSave_of_stale outdated⟩

/-- A ticket holds the draft and the document of a state in which it was handed out. -/
theorem Reaches.frozen {Allowed : Editing → Operation → Prop} {first : Editing}
    (empty : first.tickets = []) (reached : first.Reaches Allowed state)
    (issued : ticket ∈ state.tickets) :
    ∃ before next, first.Reaches Allowed before ∧ before.Reaches Allowed state ∧
      before.session.beginSave = .ok (ticket, next) ∧ ticket.snapshot = before.session.draft ∧
      ticket.document = before.session.draft.document := by
  induction reached with
  | refl => exact absurd issued (empty ▸ List.not_mem_nil)
  | step reached allowed ih =>
    rcases mem_tickets_step.mp issued with handed | old
    · obtain ⟨rfl, begun⟩ := Session.ticket?_eq_some_iff.mp handed
      obtain ⟨-, -, rfl, -⟩ := Session.beginSave_eq_ok_iff.mp begun
      exact ⟨_, _, reached, .step .refl allowed, begun, rfl, rfl⟩
    · obtain ⟨before, next, start, between, begun⟩ := ih old
      exact ⟨before, next, start, between.step allowed, begun⟩

/-- What holds of saving in a state that a first one leads to, in whatever order edits, imports,
loads and saves come in between and whichever tickets come back, however often. -/
structure SavesSafely (first state : Editing) : Prop where
  one_current : (state.tickets.filter fun ticket => state.session.isCurrent ticket).length ≤ 1
  begins_iff : (∃ ticket next, state.session.beginSave = .ok (ticket, next)) ↔
    state.session.saving = none ∧ state.session.obstacle? = none
  refused : ∀ error, state.session.beginSave = .error error → state.step .beginSave = state
  /-- A ticket is what the draft was when it was handed out. -/
  frozen : ∀ ticket ∈ state.tickets, ∃ before next, first.Reaches Any before ∧
    before.Reaches Any state ∧ before.session.beginSave = .ok (ticket, next) ∧
    ticket.snapshot = before.session.draft ∧
    ticket.document = before.session.draft.document
  changes : ∀ ticket ∈ state.tickets, ∀ result,
    (state.session.completeSave ticket result).2.baseline ≠ state.session.baseline ∨
      (state.session.completeSave ticket result).2.strategyId ≠ state.session.strategyId →
    state.session.isCurrent ticket = true ∧ ∃ id, result = .ok id
  written : ∀ ticket ∈ state.tickets, state.session.isCurrent ticket = true → ∀ id,
    (state.session.completeSave ticket (.ok id)).2 =
      { state.session with
        saving := none, baseline := some ticket.snapshot, strategyId := some id }
  failed : ∀ ticket ∈ state.tickets, state.session.isCurrent ticket = true → ∀ error,
    (state.session.completeSave ticket (.error error)).2 = { state.session with saving := none }
  ignored : ∀ ticket ∈ state.tickets, state.session.isCurrent ticket = false → ∀ result,
    (state.session.completeSave ticket result).2 = state.session
  untouched : ∀ ticket ∈ state.tickets, ∀ result,
    (state.session.completeSave ticket result).2.draft = state.session.draft ∧
    (state.session.completeSave ticket result).2.history = state.session.history ∧
    (state.session.completeSave ticket result).2.parked = state.session.parked
  /-- A ticket that came back once changes nothing when it comes back again. -/
  spent : ∀ ticket ∈ state.tickets, ∀ result later,
    (state.step (.completeSave ticket result)).Reaches Any later →
    later.session.isCurrent ticket = false ∧
      ∀ again, (later.session.completeSave ticket again).2 = later.session
  /-- Loading makes all tickets handed out before it worthless. -/
  forgotten : ∀ ticket ∈ state.tickets, ∀ strategyId document later,
    (state.step (.load strategyId document)).Reaches Any later →
    later.session.isCurrent ticket = false ∧
      ∀ result, (later.session.completeSave ticket result).2 = later.session

/-- Saving is safe in every state of every run. -/
theorem savesSafely {catalog : Catalog} {settings : Settings}
    (reached : (start catalog settings).Reaches Any state) :
    (start catalog settings).SavesSafely state := by
  have numbered := (numbered_start catalog settings).reaches reached
  exact {
    one_current := numbered.one_current
    begins_iff := Session.beginSave_ok_iff
    refused := fun error refused => by
      obtain ⟨same, unissued⟩ := Session.step_beginSave_error refused
      rw [step, same, unissued]
      rfl
    frozen := fun ticket issued => reached.frozen rfl issued
    changes := fun ticket _ result => Session.current_of_completeSave_changes
    written := fun ticket _ current => Session.completeSave_ok current
    failed := fun ticket _ current => Session.completeSave_error current
    ignored := fun ticket _ => Session.completeSave_of_stale
    untouched := fun ticket _ => Session.completeSave_frame ticket
    -- Both ways in which a save ends leave its ticket out of date.
    spent := fun ticket issued result later =>
      numbered.worthless issued (Session.isCurrent_after_completeSave ticket result)
    forgotten := fun ticket issued strategyId document later => numbered.worthless issued rfl }

theorem savesSafely_begun :
    let state := (((start .builtIn .standard).step (.command "" (.setName "Breakout"))).step
      (.command "node-1" (.addNode "signal_output" ⟨0.0, 0.0⟩))).step .beginSave
    (start .builtIn .standard).Reaches Any state ∧
      state.tickets.map (state.session.isCurrent ·) = [true] ∧
      (start .builtIn .standard).SavesSafely state := by
  intro state
  have reached : (start .builtIn .standard).Reaches Any state :=
    .step (.step (.step .refl trivial) trivial) trivial
  exact ⟨reached, by decide +kernel, savesSafely reached⟩

end Editing

end SignalGraph
