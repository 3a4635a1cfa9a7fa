import SignalGraph.Proofs.Session.Run
import SignalGraph.Store.Memory

/-! One session that saves again and again into a memory of its own.

The first save that goes through files the draft under a new id. Work on the draft, imports
included, leaves that id with the session, so every later save writes over the one record there is.
-/

set_option autoImplicit false

namespace SignalGraph

/-! ## Work and saves -/

/-- The operation works on the draft or beside it, and neither loads a strategy nor saves one. -/
def Operation.IsWork : Operation → Prop
  | load _ _ | beginSave | completeSave _ _ => False
  | _ => True

namespace Session

/-- The strategy that the draft belongs to and the save under way are no matter of work. -/
theorem step_of_isWork (session : Session) {operation : Operation} (work : operation.IsWork) :
    (session.step operation).strategyId = session.strategyId ∧
      (session.step operation).saving = session.saving := by
  have dispatched : ∀ {command next}, session.Dispatched (fun _ => True) command next →
      next.strategyId = session.strategyId ∧ next.saving = session.saving := by
    rintro _ _ (_ | _ | _ | _) <;> exact ⟨rfl, rfl⟩
  have imported : ∀ {next}, session.Imported next →
      next.strategyId = session.strategyId ∧ next.saving = session.saving := by
    rintro _ (_ | _) <;> exact ⟨rfl, rfl⟩
  cases operation with
  | command newId command => exact dispatched (session.dispatched_any newId command)
  | importDocument document => exact imported (session.imported_importDocument document)
  | importText text => exact imported (session.imported_importText text)
  | confirmImport confirmed => exact imported (session.imported_confirmImport confirmed)
  | attachTask | stopTasks => exact ⟨rfl, rfl⟩
  | load | beginSave | completeSave => exact work.elim

/-- The session once its draft is written under an id. -/
def filed (session : Session) (id : Int) : Session :=
  { session with
    saves := session.saves + 1, saving := none
    baseline := some session.draft, strategyId := some id }

/-- What a save writes that begins now. -/
def nextTicket (session : Session) : SaveTicket :=
  ⟨session.saves + 1, session.strategyId, session.document, session.draft⟩

section Save

variable {σ : Type} [StrategyStore σ] {session : Session} {store : σ} {now : Instant}

theorem save_of_obstacle {missing : SaveObstacle} (idle : session.saving = none)
    (lacks : session.obstacle? = some missing) :
    session.save store now = (.error (.obstacle missing), session, store) := by
  simp [save, beginSave, isSaving, idle, lacks]

theorem save_of_written {next : σ} {id : Int} (idle : session.saving = none)
    (ready : session.obstacle? = none)
    (written : writeTicket store now session.nextTicket = (.ok id, next)) :
    session.save store now = (.ok id, session.filed id, next) := by
  have begun : session.beginSave = .ok (session.nextTicket,
      { session with saves := session.saves + 1, saving := some (session.saves + 1) }) :=
    beginSave_eq_ok_iff.mpr ⟨idle, ready, rfl, rfl⟩
  simp only [save, begun, written]
  simp [completeSave, isCurrent, nextTicket, filed]

end Save

end Session

namespace MemoryStore

theorem get_only (lastId : Int) (stored : StoredStrategy) :
    (⟨lastId, [stored]⟩ : MemoryStore).get stored.summary.id = .ok stored := by
  simp [get, find?]

theorem update_only (lastId : Int) (stored : StoredStrategy) (now : Instant)
    (document : Document) :
    (⟨lastId, [stored]⟩ : MemoryStore).update now stored.summary.id document =
      .ok ⟨lastId, [overwrite now document stored]⟩ := by
  simp [update, find?]

end MemoryStore

/-! ## A desk -/

/-- A session, the memory into which it alone saves, and the ids that its saves returned, the last
one first. -/
structure Desk where
  session : Session
  store : MemoryStore
  ids : List Int

namespace Desk

def new (catalog : Catalog) (settings : Settings) : Desk := ⟨.new catalog settings, {}, []⟩

def work (desk : Desk) (operation : Operation) : Desk :=
  { desk with session := desk.session.step operation }

def save (desk : Desk) (now : Instant) : Desk :=
  let (answer, session, store) := desk.session.save desk.store now
  ⟨session, store, answer.toOption.toList ++ desk.ids⟩

/-- The desks that work and saves lead to. -/
inductive Reaches (first : Desk) : Desk → Prop where
  | refl : Reaches first first
  | work {desk : Desk} {operation : Operation} (reached : Reaches first desk)
      (work : operation.IsWork) : Reaches first (desk.work operation)
  | save {desk : Desk} (reached : Reaches first desk) (now : Instant) :
      Reaches first (desk.save now)

/-- Between two saves the memory is empty, and no save has gone through, or it holds the record of
the session and nothing else. -/
inductive Filed : Desk → Prop where
  | unsaved {session : Session} (idle : session.saving = none)
      (strategyId : session.strategyId = none) : Filed ⟨session, {}, []⟩
  | saved {session : Session} {stored : StoredStrategy} {ids : List Int}
      (idle : session.saving = none) (strategyId : session.strategyId = some stored.summary.id)
      (same : ∀ id ∈ ids, id = stored.summary.id) :
      Filed ⟨session, ⟨stored.summary.id, [stored]⟩, ids⟩

/-- What a save can come to: the draft lacks something and all stays as it was, or the draft is
written as the one record of the memory, under the id of all earlier saves. -/
inductive Saves (desk : Desk) (now : Instant) :
    Except SaveError Int × Session × MemoryStore → Prop where
  | refused {missing : SaveObstacle} (lacks : desk.session.obstacle? = some missing) :
      Saves desk now (.error (.obstacle missing), desk.session, desk.store)
  | written {id : Int} {createdAt : String} (ready : desk.session.obstacle? = none)
      (same : ∀ earlier ∈ desk.ids, earlier = id) :
      Saves desk now (.ok id, desk.session.filed id,
        ⟨id, [⟨.ofDocument id createdAt now.text desk.session.document, desk.session.document⟩]⟩)

namespace Filed

variable {desk : Desk}

theorem idle (filed : desk.Filed) : desk.session.saving = none := by
  cases filed with
  | unsaved idle => exact idle
  | saved idle => exact idle

theorem work (filed : desk.Filed) {operation : Operation} (work : operation.IsWork) :
    (desk.work operation).Filed := by
  have kept := desk.session.step_of_isWork work
  cases filed with
  | unsaved idle strategyId => exact .unsaved (kept.2.trans idle) (kept.1.trans strategyId)
  | saved idle strategyId same => exact .saved (kept.2.trans idle) (kept.1.trans strategyId) same

theorem saves (filed : desk.Filed) (now : Instant) :
    desk.Saves now (desk.session.save desk.store now) := by
  cases lacks : desk.session.obstacle? with
  | some missing =>
    rw [Session.save_of_obstacle filed.idle lacks]
    exact .refused lacks
  | none =>
    -- A session that is not filed yet creates the record, one that is writes over it.
    cases filed with
    | @unsaved session idle strategyId =>
      have created : Session.writeTicket ({} : MemoryStore) now session.nextTicket =
          (.ok 1, ⟨1, [⟨.ofDocument 1 now.text now.text session.document, session.document⟩]⟩) := by
        simp only [Session.writeTicket, Session.nextTicket, strategyId]
        rfl
      rw [Session.save_of_written idle lacks created]
      exact .written lacks fun _ none => absurd none List.not_mem_nil
    | @saved session stored ids idle strategyId same =>
      have updated : Session.writeTicket (⟨stored.summary.id, [stored]⟩ : MemoryStore) now
          session.nextTicket =
          (.ok stored.summary.id,
            ⟨stored.summary.id, [MemoryStore.overwrite now session.document stored]⟩) := by
        simp only [Session.writeTicket, Session.nextTicket, strategyId, StrategyStore.update,
          MemoryStore.update_only]
      rw [Session.save_of_written idle lacks updated]
      exact .written lacks same

theorem save (filed : desk.Filed) (now : Instant) : (desk.save now).Filed := by
  have saves := filed.saves now
  unfold Desk.save
  generalize desk.session.save desk.store now = outcome at saves ⊢
  cases saves with
  | refused => exact filed
  | @written id createdAt ready same =>
    have ids : ∀ earlier ∈ id :: desk.ids, earlier = id := List.forall_mem_cons.mpr ⟨rfl, same⟩
    let summary : Summary := .ofDocument id createdAt now.text desk.session.document
    exact @Filed.saved _ ⟨summary, desk.session.document⟩ _ rfl rfl ids

theorem one_record (filed : desk.Filed) : desk.store.records.length ≤ 1 := by
  cases filed with
  | unsaved => exact Nat.zero_le 1
  | saved => exact Nat.le_refl 1

theorem one_id (filed : desk.Filed) : ∀ first ∈ desk.ids, ∀ second ∈ desk.ids, first = second := by
  intro first firstMember second secondMember
  cases filed with
  | unsaved => exact absurd firstMember List.not_mem_nil
  | saved idle strategyId same =>
    exact (same first firstMember).trans (same second secondMember).symm

end Filed

variable {desk : Desk} {catalog : Catalog} {settings : Settings}

theorem Reaches.filed (reached : (new catalog settings).Reaches desk) : desk.Filed := by
  induction reached with
  | refl => exact .unsaved rfl rfl
  | work _ work ih => exact ih.work work
  | save _ now ih => exact ih.save now

/-! ## Saving under one id -/

/-- What holds of a desk at any time, and of the next save there. -/
structure SavesUnderOneId (desk : Desk) : Prop where
  one_record : desk.store.records.length ≤ 1
  one_id : ∀ first ∈ desk.ids, ∀ second ∈ desk.ids, first = second
  /-- Nothing but the draft itself can be in the way of a save. -/
  succeeds_iff : ∀ now, (∃ id, (desk.session.save desk.store now).1 = .ok id) ↔
    desk.session.obstacle? = none
  /-- A save that succeeds returns the id of all saves before it. The memory then gives, under that
  id, the document of the draft, with a summary of that very document. -/
  saved : ∀ now id session store, desk.session.save desk.store now = (.ok id, session, store) →
    (∀ earlier ∈ desk.ids, earlier = id) ∧
    session.strategyId = some id ∧
    session.draft = desk.session.draft ∧
    ∃ createdAt, store.get id =
      .ok ⟨.ofDocument id createdAt now.text session.document, session.document⟩
  /-- A save that fails changes nothing. -/
  refused : ∀ now error session store,
    desk.session.save desk.store now = (.error error, session, store) →
    store = desk.store ∧ session = desk.session

/-- However a new session is worked on between its saves, they all go to one record. -/
theorem reaches_savesUnderOneId (reached : (new catalog settings).Reaches desk) :
    desk.SavesUnderOneId := by
  have filed := reached.filed
  refine ⟨filed.one_record, filed.one_id, fun now => ?_, fun now id session store succeeds => ?_,
    fun now error session store fails => ?_⟩
  all_goals have saves := filed.saves now
  · generalize desk.session.save desk.store now = outcome at saves ⊢
    cases saves with
    | refused lacks => simp [lacks]
    | written ready => simp [ready]
  · rw [succeeds] at saves
    cases saves with
    | written ready same =>
      exact ⟨same, rfl, rfl, _, MemoryStore.get_only id ⟨_, desk.session.document⟩⟩
  · rw [fails] at saves
    cases saves with
    | refused => exact ⟨rfl, rfl⟩

/-- An import between two saves replaces the draft, and the second save the record of the first. -/
theorem savesUnderOneId_import :
    let document : Document :=
      { name := "Reversal", description := none, config := .empty, isPublic := true
        graph := { nodes := [{ id := some "out", kind := "signal_output", position := none
                               parameters := .empty, label := "" }], edges := [] } }
    let first := (((new .builtIn .standard).work (.command "" (.setName "Breakout"))).work
      (.command "node-1" (.addNode "signal_output" ⟨0.0, 0.0⟩))).save ⟨0⟩
    let desk := (first.work (.importDocument document)).save ⟨1⟩
    (new .builtIn .standard).Reaches desk ∧ desk.ids = [1, 1] ∧
      desk.store.records.map (·.document.name) = ["Reversal"] ∧ desk.SavesUnderOneId := by
  intro document first desk
  have created : (new .builtIn .standard).Reaches first :=
    .save (.work (.work .refl (by trivial)) (by trivial)) ⟨0⟩
  have reached : (new .builtIn .standard).Reaches desk := .save (.work created (by trivial)) ⟨1⟩
  exact ⟨reached, by decide +kernel, by decide +kernel, reaches_savesUnderOneId reached⟩

end Desk

end SignalGraph
