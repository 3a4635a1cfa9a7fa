import SignalGraph.Session.Basic
import SignalGraph.Store.Basic

/-! Saving the draft of a session, in two steps with the write to a store between them.

A ticket freezes what is written. Only the ticket of the save under way counts when its result
comes in; any other tells its result and changes nothing.
-/

set_option autoImplicit false

namespace SignalGraph

/-- What a save writes, as it was when the save began. -/
structure SaveTicket where
  number : Nat
  strategyId : Option Int
  document : Document
  snapshot : Draft

inductive SaveError where
  | obstacle (missing : SaveObstacle)
  | inProgress
  | store (error : StoreError)
  deriving DecidableEq

def SaveError.message : SaveError → String
  | obstacle missing => missing.message
  | inProgress => "A save is already in progress"
  | store error => "Failed to save strategy: " ++ error.message

namespace Session

def isSaving (session : Session) : Bool := session.saving.isSome

/-- Begin a save, unless one is under way or the draft is not ready. -/
def beginSave (session : Session) : Except SaveError (SaveTicket × Session) :=
  if session.isSaving then .error .inProgress
  else
    match session.obstacle? with
    | some obstacle => .error (.obstacle obstacle)
    | none =>
      let number := session.saves + 1
      .ok (⟨number, session.strategyId, session.document, session.draft⟩,
        { session with saves := number, saving := some number })

/-- The ticket is the one of the save under way. -/
def isCurrent (session : Session) (ticket : SaveTicket) : Bool :=
  session.saving = some ticket.number

/-- Finish a save with what the store answered. After a success the baseline is what was
written, whatever the draft has become since. -/
def completeSave (session : Session) (ticket : SaveTicket) (result : Except StoreError Int) :
    Except SaveError Int × Session :=
  let settled := if session.isCurrent ticket then { session with saving := none } else session
  match result with
  | .error error => (.error (.store error), settled)
  | .ok id =>
    (.ok id,
      if session.isCurrent ticket then
        { settled with baseline := some ticket.snapshot, strategyId := some id }
      else settled)

/-- Write a ticket's document: over the strategy it belongs to, or as a new one. -/
def writeTicket {σ : Type} [StrategyStore σ] (store : σ) (now : Instant) (ticket : SaveTicket) :
    Except StoreError Int × σ :=
  match ticket.strategyId with
  | some id =>
    match StrategyStore.update store now id ticket.document with
    | .ok store => (.ok id, store)
    | .error error => (.error error, store)
  | none =>
    match StrategyStore.create store now ticket.document with
    | .ok (id, store) => (.ok id, store)
    | .error error => (.error error, store)

/-- Save the draft into a store. -/
def save {σ : Type} [StrategyStore σ] (session : Session) (store : σ) (now : Instant) :
    Except SaveError Int × Session × σ :=
  match session.beginSave with
  | .error error => (.error error, session, store)
  | .ok (ticket, session) =>
    let (result, store) := writeTicket store now ticket
    let (answer, session) := session.completeSave ticket result
    (answer, session, store)

/-- Load a strategy from a store. -/
def loadFrom {σ : Type} [StrategyStore σ] (session : Session) (store : σ) (id : Int) :
    Except StoreError (ImportReport × Session) :=
  match StrategyStore.get store id with
  | .ok stored => .ok (session.load (some stored.summary.id) stored.document)
  | .error error => .error error

end Session

end SignalGraph
