import SignalGraph.Proofs.Session.Parked
import SignalGraph.Proofs.Session.Saving
import SignalGraph.Proofs.Session.Timeline

/-! Loading forgets what a session was before.

A session that has loaded a document is a new session that has loaded it, except that its saves are
counted on from those begun before and that its tasks go on. Nothing that it tells or shows depends
on either, so two sessions that load the same document cannot be told apart from there on.
-/

set_option autoImplicit false

namespace SignalGraph

/-! ## What a session tells and shows -/

/-- What an operation tells. A ticket tells where its document goes, and the document. -/
inductive Answer where
  | outcome (outcome : Outcome)
  | loaded (report : ImportReport)
  | imported (outcome : Except ImportError ImportOutcome)
  | confirmed (report : Option ImportReport)
  | begun (ticket : Except SaveError (Option Int × Document))
  | saved (result : Except SaveError Int)
  | done

/-- What can be seen of a session. -/
structure View where
  draft : Draft
  historyLength : Nat
  cursor : Nat
  canUndo : Bool
  canRedo : Bool
  hasUnsavedChanges : Bool
  parked : Option Document
  isSaving : Bool
  strategyId : Option Int

/-- The operation brings back the result of a save. -/
def Operation.Completes : Operation → Prop
  | completeSave _ _ => True
  | _ => False

namespace Session

def answer (session : Session) : Operation → Answer
  | .command newId command => .outcome (session.dispatch newId command).1
  | .load strategyId document => .loaded (session.load strategyId document).1
  | .importDocument document => .imported (.ok (session.importDocument document).1)
  | .importText text => .imported ((session.importText text).map (·.1))
  | .confirmImport confirmed => .confirmed (session.confirmImport confirmed).1
  | .beginSave =>
    .begun (session.beginSave.map fun begun => (begun.1.strategyId, begun.1.document))
  | .completeSave ticket result => .saved (session.completeSave ticket result).1
  | .attachTask _ | .stopTasks => .done

def view (session : Session) : View where
  draft := session.draft
  historyLength := session.history.snapshots.length
  cursor := session.history.cursor
  canUndo := session.history.canUndo
  canRedo := session.history.canRedo
  hasUnsavedChanges := session.hasUnsavedChanges
  parked := session.parked
  isSaving := session.isSaving
  strategyId := session.strategyId

/-- The session with other saves and other tasks beside it. -/
def beside (session : Session) (saves : Nat) (saving : Option Nat) (tasks : List BackgroundTask) :
    Session :=
  { session with saves, saving, tasks }

end Session

/-! ## Operations that have nothing to do with saves -/

/-- The operation neither looks at the saves and the tasks of a session nor changes them. -/
def Operation.Oblivious (operation : Operation) : Prop :=
  ∀ (session : Session) (saves : Nat) (saving : Option Nat) (tasks : List BackgroundTask),
    (session.beside saves saving tasks).answer operation = session.answer operation ∧
    (session.beside saves saving tasks).step operation =
      (session.step operation).beside saves saving tasks

namespace Session

theorem applyEdit_beside (session : Session) (saves : Nat) (saving : Option Nat)
    (tasks : List BackgroundTask) (graph? : Option Graph) :
    (session.beside saves saving tasks).applyEdit graph? =
      ((session.applyEdit graph?).1, (session.applyEdit graph?).2.beside saves saving tasks) := by
  cases graph? <;> rfl

theorem dispatch_beside (session : Session) (saves : Nat) (saving : Option Nat)
    (tasks : List BackgroundTask) (newId : String) (command : Command) :
    (session.beside saves saving tasks).dispatch newId command =
      ((session.dispatch newId command).1,
        (session.dispatch newId command).2.beside saves saving tasks) := by
  -- A command that can be refused is split on what refuses it.
  cases command with
  | setParameters | moveNode | renameNode | deleteNode | deleteEdge => exact applyEdit_beside ..
  | duplicateNode node =>
    cases found : session.draft.graph.copy? node newId session.settings.duplicateOffset <;>
      simp [dispatch, beside, found, addNode, edit, withGraph]
  | connect connection =>
    cases drawn : session.draft.graph.connect session.catalog connection <;>
      simp [dispatch, beside, drawn, edit, withGraph]
  | undo =>
    cases possible : session.history.canUndo <;>
      simp [dispatch, undo, beside, possible, withGraph]
  | redo =>
    cases possible : session.history.canRedo <;>
      simp [dispatch, redo, beside, possible, withGraph]
  | removeConfig key =>
    cases here : session.draft.config.contains key <;>
      simp [dispatch, beside, here, withConfig]
  | addNode | setName | setDescription | setConfig | setPublic => rfl

theorem importDocument_beside (session : Session) (saves : Nat) (saving : Option Nat)
    (tasks : List BackgroundTask) (document : Document) :
    (session.beside saves saving tasks).importDocument document =
      ((session.importDocument document).1,
        (session.importDocument document).2.beside saves saving tasks) := by
  have same : (session.beside saves saving tasks).hasUnsavedChanges = session.hasUnsavedChanges :=
    rfl
  unfold importDocument
  rw [same]
  split <;> rfl

theorem confirmImport_beside (session : Session) (saves : Nat) (saving : Option Nat)
    (tasks : List BackgroundTask) (confirmed : Bool) :
    (session.beside saves saving tasks).confirmImport confirmed =
      ((session.confirmImport confirmed).1,
        (session.confirmImport confirmed).2.beside saves saving tasks) := by
  cases parked : session.parked with
  | none => simp [confirmImport, beside, parked]
  | some document => cases confirmed <;> simp [confirmImport, beside, parked, applyImport]

end Session

namespace Operation.Oblivious

theorem command (newId : String) (command : Command) :
    (Operation.command newId command).Oblivious := fun session saves saving tasks => by
  simp only [Session.answer, Session.step, session.dispatch_beside, and_self]

theorem importDocument (document : Document) :
    (Operation.importDocument document).Oblivious := fun session saves saving tasks => by
  simp only [Session.answer, Session.step, session.importDocument_beside, and_self]

theorem importText (text : String) :
    (Operation.importText text).Oblivious := fun session saves saving tasks => by
  simp only [Session.answer, Session.step, Session.importText]
  cases Document.parse text with
  | error error => exact ⟨rfl, rfl⟩
  | ok document =>
    simp only [Except.map, session.importDocument_beside, and_self]

theorem confirmImport (confirmed : Bool) :
    (Operation.confirmImport confirmed).Oblivious := fun session saves saving tasks => by
  simp only [Session.answer, Session.step, session.confirmImport_beside, and_self]

end Operation.Oblivious

/-! ## Saves that are counted on -/

/-- The ticket with its number counted on. -/
def SaveTicket.recounted (ticket : SaveTicket) (count : Nat) : SaveTicket :=
  { ticket with number := count + ticket.number }

namespace Session

/-- The session with its saves counted on, and with other tasks beside it. -/
def recounted (session : Session) (count : Nat) (tasks : List BackgroundTask) : Session :=
  session.beside (count + session.saves) (session.saving.map (count + ·)) tasks

variable (session : Session) (count : Nat) (tasks : List BackgroundTask)

theorem view_recounted : (session.recounted count tasks).view = session.view := by
  simp [view, recounted, beside, isSaving, hasUnsavedChanges]

theorem isCurrent_recounted (ticket : SaveTicket) :
    (session.recounted count tasks).isCurrent (ticket.recounted count) =
      session.isCurrent ticket := by
  simp [isCurrent, recounted, beside, SaveTicket.recounted]

theorem beginSave_recounted :
    (session.recounted count tasks).beginSave =
      session.beginSave.map fun begun =>
        (begun.1.recounted count, begun.2.recounted count tasks) := by
  have busy : (session.recounted count tasks).isSaving = session.isSaving := by
    simp [isSaving, recounted, beside]
  have obstacle : (session.recounted count tasks).obstacle? = session.obstacle? := rfl
  unfold beginSave
  rw [busy, obstacle]
  cases session.isSaving with
  | true => rfl
  | false => cases session.obstacle? <;> rfl

theorem completeSave_recounted (ticket : SaveTicket) (result : Except StoreError Int) :
    (session.recounted count tasks).completeSave (ticket.recounted count) result =
      ((session.completeSave ticket result).1,
        (session.completeSave ticket result).2.recounted count tasks) := by
  unfold completeSave
  rw [isCurrent_recounted]
  cases session.isCurrent ticket <;> cases result <;> rfl

theorem ticket?_recounted (operation : Operation) :
    (session.recounted count tasks).ticket? operation =
      (session.ticket? operation).map (·.recounted count) := by
  cases operation with
  | beginSave =>
    simp only [ticket?, beginSave_recounted]
    cases session.beginSave <;> rfl
  | _ => rfl

theorem save_recounted {σ : Type} [StrategyStore σ] (store : σ) (now : Instant) :
    (session.recounted count tasks).save store now =
      ((session.save store now).1, (session.save store now).2.1.recounted count tasks,
        (session.save store now).2.2) := by
  unfold save
  rw [beginSave_recounted]
  cases session.beginSave with
  | error error => rfl
  | ok begun =>
    have written : writeTicket store now (begun.1.recounted count) =
      writeTicket store now begun.1 := rfl
    simp only [Except.map, written, completeSave_recounted]

theorem recounted_of_oblivious {operation : Operation} (oblivious : operation.Oblivious) :
    (session.recounted count tasks).answer operation = session.answer operation ∧
      ∃ others, (session.recounted count tasks).step operation =
        (session.step operation).recounted count others := by
  -- With its own saves put beside it the session is itself, so its step keeps them.
  have own : session.step operation =
      (session.step operation).beside session.saves session.saving session.tasks :=
    (oblivious session session.saves session.saving session.tasks).2
  have saves : (session.step operation).saves = session.saves :=
    (congrArg Session.saves own :)
  have saving : (session.step operation).saving = session.saving :=
    (congrArg Session.saving own :)
  obtain ⟨told, next⟩ := oblivious session (count + session.saves)
    (session.saving.map (count + ·)) tasks
  refine ⟨told, tasks, next.trans ?_⟩
  rw [recounted, saves, saving]

/-- Counting saves on makes no difference to an operation, and none is made to it. -/
theorem step_recounted {operation : Operation} (ordinary : ¬ operation.Completes) :
    (session.recounted count tasks).answer operation = session.answer operation ∧
      ∃ others, (session.recounted count tasks).step operation =
        (session.step operation).recounted count others := by
  cases operation with
  | command newId command => exact recounted_of_oblivious _ _ _ (.command newId command)
  | importDocument document => exact recounted_of_oblivious _ _ _ (.importDocument document)
  | importText text => exact recounted_of_oblivious _ _ _ (.importText text)
  | confirmImport confirmed => exact recounted_of_oblivious _ _ _ (.confirmImport confirmed)
  | load strategyId document => exact ⟨rfl, tasks, rfl⟩
  | beginSave =>
    simp only [answer, step, beginSave_recounted]
    cases session.beginSave with
    | error error => exact ⟨rfl, tasks, rfl⟩
    | ok begun => exact ⟨rfl, tasks, rfl⟩
  | completeSave ticket result => exact absurd trivial ordinary
  | attachTask task => exact ⟨rfl, _, rfl⟩
  | stopTasks => exact ⟨rfl, _, rfl⟩

/-- A ticket from before the first save that is counted on does not count, and only its result comes
back. -/
theorem completeSave_earlier {ticket : SaveTicket} (earlier : ticket.number ≤ count)
    (positive : session.saving ≠ some 0) (result : Except StoreError Int) :
    (session.recounted count tasks).completeSave ticket result =
      (result.mapError .store, session.recounted count tasks) := by
  have stale : (session.recounted count tasks).isCurrent ticket = false := by
    cases saving : session.saving with
    | none => simp [isCurrent, recounted, beside, saving]
    | some number =>
      -- Counted on, its number is past `count`, and the ticket's is not.
      have some : number ≠ 0 := fun zero => positive (zero ▸ saving)
      simp only [isCurrent, recounted, beside, saving, Option.map_some, Option.some.injEq,
        decide_eq_false_iff_not]
      omega
  refine Prod.ext ?_ (completeSave_of_stale stale result)
  cases result <;> rfl

end Session

theorem History.reset_congr {α : Type} {first second : History α}
    (limit : first.limit = second.limit) (snapshot : α) :
    first.reset snapshot = second.reset snapshot := by
  cases first
  cases second
  cases limit
  rfl

/-- A session that loads a document becomes a new session that has loaded it, but for the count of
its saves and for its tasks. -/
theorem Session.Tracked.load_eq {session : Session} (tracked : session.Tracked)
    (strategyId : Option Int) (document : Document) :
    session.load strategyId document =
      let fresh := (Session.new session.catalog session.settings).load strategyId document
      (fresh.1, fresh.2.recounted session.saves session.tasks) := by
  have limit : session.history.limit =
      (Session.new session.catalog session.settings).history.limit := tracked.limit
  simp only [load, History.reset_congr limit]
  rfl

/-- Saves that are under way are counted from one on. -/
theorem Session.Stepped.positive {Made : String → Prop} {session next : Session}
    (stepped : session.Stepped Made next) (positive : session.saving ≠ some 0) :
    next.saving ≠ some 0 := by
  rcases stepped.saving with same | ended | begun
  · rwa [same]
  · simp [ended]
  · simp [begun]

theorem Session.positive_completeSave {session : Session} (positive : session.saving ≠ some 0)
    (ticket : SaveTicket) (result : Except StoreError Int) :
    (session.completeSave ticket result).2.saving ≠ some 0 := by
  have stepped : session.Stepped (fun _ => True) (session.completeSave ticket result).2 :=
    stepped_completeSave ticket result
  exact stepped.positive positive

theorem Session.positive_save {σ : Type} [StrategyStore σ] {session : Session}
    (positive : session.saving ≠ some 0) (store : σ) (now : Instant) :
    (session.save store now).2.1.saving ≠ some 0 := by
  unfold save
  cases begun : session.beginSave with
  | error error => exact positive
  | ok pair =>
    obtain ⟨idle, ready, -, next⟩ := beginSave_eq_ok_iff.mp begun
    have stepped : session.Stepped (fun _ => True) _ := .begun idle ready
    exact positive_completeSave (next ▸ stepped.positive positive) pair.1 _

/-! ## Two sessions side by side -/

/-- Two sessions after the same requests were made to both, from a first state of each on, with the
tickets that they handed out at the same places.

A save that was begun in both may be completed in both, with the same result and as often as one
likes. A ticket from before the first state may come back at any time, and to one of them alone. -/
inductive Together (first second : Editing) :
    Session → Session → List (SaveTicket × SaveTicket) → Prop where
  | start : Together first second first.session second.session []
  | request {one other : Session} {tickets : List (SaveTicket × SaveTicket)}
      (together : Together first second one other tickets) {operation : Operation}
      (ordinary : ¬ operation.Completes) :
      Together first second (one.step operation) (other.step operation)
        ((one.ticket? operation).toList.zip (other.ticket? operation).toList ++ tickets)
  | completed {one other : Session} {tickets : List (SaveTicket × SaveTicket)}
      (together : Together first second one other tickets) {pair : SaveTicket × SaveTicket}
      (issued : pair ∈ tickets) (result : Except StoreError Int) :
      Together first second (one.completeSave pair.1 result).2 (other.completeSave pair.2 result).2
        tickets
  | saved {one other : Session} {tickets : List (SaveTicket × SaveTicket)}
      (together : Together first second one other tickets) {σ : Type} [StrategyStore σ] (store : σ)
      (now : Instant) :
      Together first second (one.save store now).2.1 (other.save store now).2.1 tickets
  | earlierFirst {one other : Session} {tickets : List (SaveTicket × SaveTicket)}
      (together : Together first second one other tickets) {ticket : SaveTicket}
      (earlier : ticket ∈ first.tickets) (result : Except StoreError Int) :
      Together first second (one.completeSave ticket result).2 other tickets
  | earlierSecond {one other : Session} {tickets : List (SaveTicket × SaveTicket)}
      (together : Together first second one other tickets) {ticket : SaveTicket}
      (earlier : ticket ∈ second.tickets) (result : Except StoreError Int) :
      Together first second one (other.completeSave ticket result).2 tickets

/-- Nothing tells the sessions apart: they show the same, they tell the same whatever is asked of
them, and old tickets have no effect in either. -/
structure Indistinguishable (first second : Editing) (one other : Session)
    (tickets : List (SaveTicket × SaveTicket)) : Prop where
  shown : one.view = other.view
  told : ∀ operation : Operation, ¬ operation.Completes →
    one.answer operation = other.answer operation
  written : ∀ pair ∈ tickets, ∀ {σ : Type} [StrategyStore σ] (store : σ) (now : Instant),
    Session.writeTicket store now pair.1 = Session.writeTicket store now pair.2
  completed : ∀ pair ∈ tickets, ∀ result,
    one.answer (.completeSave pair.1 result) = other.answer (.completeSave pair.2 result)
  saved : ∀ {σ : Type} [StrategyStore σ] (store : σ) (now : Instant),
    (one.save store now).1 = (other.save store now).1 ∧
    (one.save store now).2.2 = (other.save store now).2.2
  earlierFirst : ∀ ticket ∈ first.tickets, ∀ result,
    one.completeSave ticket result = (result.mapError .store, one)
  earlierSecond : ∀ ticket ∈ second.tickets, ∀ result,
    other.completeSave ticket result = (result.mapError .store, other)

/-- Both sessions are one session whose saves are counted on from two counts, and so are the
tickets. -/
inductive Mirrored (count further : Nat) :
    Session → Session → List (SaveTicket × SaveTicket) → Prop where
  | intro (fresh : Session) (positive : fresh.saving ≠ some 0) (tasks others : List BackgroundTask)
      (tickets : List SaveTicket) :
      Mirrored count further (fresh.recounted count tasks) (fresh.recounted further others)
        (tickets.map fun ticket => (ticket.recounted count, ticket.recounted further))

section Together

variable {first second : Editing} {one other : Session} {tickets : List (SaveTicket × SaveTicket)}
  {count further : Nat}

theorem Together.mirrored (earlier : ∀ ticket ∈ first.tickets, ticket.number ≤ count)
    (other_earlier : ∀ ticket ∈ second.tickets, ticket.number ≤ further)
    (start : Mirrored count further first.session second.session [])
    (together : Together first second one other tickets) :
    Mirrored count further one other tickets := by
  -- Each request steps the one session that both are; an old ticket leaves it where it was.
  induction together with
  | start => exact start
  | @request _ _ _ _ operation ordinary ih =>
    obtain ⟨fresh, positive, tasks, others, tickets⟩ := ih
    obtain ⟨-, _, next⟩ := fresh.step_recounted count tasks ordinary
    obtain ⟨-, _, beyond⟩ := fresh.step_recounted further others ordinary
    rw [next, beyond, Session.ticket?_recounted, Session.ticket?_recounted]
    have handed : ((fresh.ticket? operation).map (·.recounted count)).toList.zip
        ((fresh.ticket? operation).map (·.recounted further)).toList =
        (fresh.ticket? operation).toList.map fun ticket =>
          (ticket.recounted count, ticket.recounted further) := by
      cases fresh.ticket? operation <;> rfl
    rw [handed, ← List.map_append]
    exact .intro _ ((fresh.stepped_any operation).positive positive) _ _ _
  | completed _ issued result ih =>
    obtain ⟨fresh, positive, tasks, others, tickets⟩ := ih
    obtain ⟨ticket, _, rfl⟩ := List.mem_map.mp issued
    rw [Session.completeSave_recounted, Session.completeSave_recounted]
    exact .intro _ (Session.positive_completeSave positive ticket result) _ _ _
  | saved _ store now ih =>
    obtain ⟨fresh, positive, tasks, others, tickets⟩ := ih
    rw [Session.save_recounted, Session.save_recounted]
    exact .intro _ (Session.positive_save positive store now) _ _ _
  | earlierFirst _ issued result ih =>
    obtain ⟨fresh, positive, tasks, others, tickets⟩ := ih
    rw [fresh.completeSave_earlier _ _ (earlier _ issued) positive]
    exact .intro _ positive _ _ _
  | earlierSecond _ issued result ih =>
    obtain ⟨fresh, positive, tasks, others, tickets⟩ := ih
    rw [fresh.completeSave_earlier _ _ (other_earlier _ issued) positive]
    exact .intro _ positive _ _ _

theorem Mirrored.indistinguishable (earlier : ∀ ticket ∈ first.tickets, ticket.number ≤ count)
    (other_earlier : ∀ ticket ∈ second.tickets, ticket.number ≤ further)
    (mirrored : Mirrored count further one other tickets) :
    Indistinguishable first second one other tickets := by
  obtain ⟨fresh, positive, tasks, others, tickets⟩ := mirrored
  refine
    { shown := by rw [Session.view_recounted, Session.view_recounted]
      told := fun operation ordinary => ?_
      written := List.forall_mem_map.mpr fun ticket _ σ _ store now => rfl
      completed := List.forall_mem_map.mpr fun ticket _ result => ?_
      saved := fun store now => ?_
      earlierFirst := fun ticket issued =>
        fresh.completeSave_earlier count tasks (earlier ticket issued) positive
      earlierSecond := fun ticket issued =>
        fresh.completeSave_earlier further others (other_earlier ticket issued) positive }
  · exact (fresh.step_recounted count tasks ordinary).1.trans
      (fresh.step_recounted further others ordinary).1.symm
  · simp only [Session.answer, Session.completeSave_recounted]
  · simp only [Session.save_recounted, and_self]

end Together

namespace Editing

variable {catalog : Catalog} {settings : Settings} {before another : Editing}

/-- Whatever two sessions went through, after the same load both report the same, and nothing tells
them apart from then on. -/
theorem load_forgets (reached : (start catalog settings).Reaches Any before)
    (also_reached : (start catalog settings).Reaches Any another) (strategyId : Option Int)
    (document : Document) :
    let load := Operation.load strategyId document
    before.session.answer load = another.session.answer load ∧
    ∀ one other tickets, Together (before.step load) (another.step load) one other tickets →
      Indistinguishable (before.step load) (another.step load) one other tickets := by
  intro load
  obtain ⟨sameCatalog, sameSettings⟩ := reached.brings_any.surroundings
  obtain ⟨alsoCatalog, alsoSettings⟩ := also_reached.brings_any.surroundings
  have loaded := reached.tracked.1.load_eq strategyId document
  have also_loaded := also_reached.tracked.1.load_eq strategyId document
  rw [sameCatalog, sameSettings] at loaded
  rw [alsoCatalog, alsoSettings] at also_loaded
  -- Loading hands no ticket out, so those from before it are all there are.
  have bounded : ∀ ticket ∈ (before.step load).tickets, ticket.number ≤ before.session.saves :=
    ((numbered_start catalog settings).reaches reached).bounded
  have also_bounded : ∀ ticket ∈ (another.step load).tickets,
      ticket.number ≤ another.session.saves :=
    ((numbered_start catalog settings).reaches also_reached).bounded
  refine ⟨?_, fun one other tickets together => ?_⟩
  · simp only [load, Session.answer, loaded, also_loaded]
  · have start : Mirrored before.session.saves another.session.saves
        (before.step load).session (another.step load).session [] := by
      simp only [load, step, Session.step, loaded, also_loaded]
      exact .intro _ (Option.some_ne_none 0).symm _ _ []
    exact (together.mirrored bounded also_bounded start).indistinguishable bounded also_bounded

/-- One session began a save before it loads, and the other is new. The save that both begin after
it has another number in each, and the ticket from before comes back while it is under way. -/
theorem load_forgets_saving :
    let before := (((start .builtIn .standard).step (.command "" (.setName "Breakout"))).step
      (.command "node-1" (.addNode "signal_output" ⟨0.0, 0.0⟩))).step .beginSave
    let another := start .builtIn .standard
    let load : Operation := .load (some 7)
      { name := "Range", description := none, config := .empty, isPublic := false
        graph := { nodes := [⟨some "out", "signal_output", none, .empty, ""⟩], edges := [] } }
    (start .builtIn .standard).Reaches Any before ∧
    (start .builtIn .standard).Reaches Any another ∧
    ∃ one other tickets, Together (before.step load) (another.step load) one other tickets ∧
      tickets.map (fun pair => (pair.1.number, pair.2.number)) = [(2, 1)] ∧
      ∃ ticket ∈ (before.step load).tickets,
        Indistinguishable (before.step load) (another.step load)
          (one.completeSave ticket (.ok 1)).2 other tickets := by
  intro before another load
  have reached : (start .builtIn .standard).Reaches Any before :=
    .step (.step (.step .refl trivial) trivial) trivial
  have ordinary : ¬ Operation.Completes .beginSave := nofun
  have loaded : Together (before.step load) (another.step load) _ _ [] := .start
  have begun := loaded.request ordinary
  have one : (before.step load).tickets.length = 1 := by decide +kernel
  obtain ⟨ticket, only⟩ := List.length_eq_one_iff.mp one
  have issued : ticket ∈ (before.step load).tickets := only ▸ List.mem_singleton_self ticket
  exact ⟨reached, .refl, _, _, _, begun, by decide +kernel, ticket, issued,
    (load_forgets reached .refl _ _).2 _ _ _ (begun.earlierFirst issued (.ok 1))⟩

end Editing

end SignalGraph
