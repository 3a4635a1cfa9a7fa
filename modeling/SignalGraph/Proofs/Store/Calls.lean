import SignalGraph.Store.Memory

/-! Calls to a store, one after another, and what it answers.

`Performed` says once what a call can make of a memory: what it answers and which records are there
afterwards.
-/

set_option autoImplicit false

namespace SignalGraph

/-- What can be asked of a store. What writes comes with the time at which it does. -/
inductive StoreCall where
  | create (now : Instant) (document : Document)
  | update (now : Instant) (id : Int) (document : Document)
  | get (id : Int)
  | list
  | delete (id : Int)

inductive StoreAnswer where
  | created (id : Int)
  | updated
  | found (stored : StoredStrategy)
  | listed (summaries : List Summary)
  | deleted
  | refused (error : StoreError)

namespace StoreCall

variable {σ : Type} [StrategyStore σ]

/-- The answer to a call and the store after it. What is refused changes nothing. -/
def perform (store : σ) : StoreCall → StoreAnswer × σ
  | create now document =>
    match StrategyStore.create store now document with
    | .ok (id, next) => (.created id, next)
    | .error error => (.refused error, store)
  | update now id document =>
    match StrategyStore.update store now id document with
    | .ok next => (.updated, next)
    | .error error => (.refused error, store)
  | get id =>
    match StrategyStore.get store id with
    | .ok stored => (.found stored, store)
    | .error error => (.refused error, store)
  | list =>
    match StrategyStore.list store with
    | .ok summaries => (.listed summaries, store)
    | .error error => (.refused error, store)
  | delete id =>
    match StrategyStore.delete store id with
    | .ok next => (.deleted, next)
    | .error error => (.refused error, store)

/-- The document that a call writes. -/
def document? : StoreCall → Option Document
  | create _ document | update _ _ document => some document
  | _ => none

/-- The id under which a call asks for a record. -/
def id? : StoreCall → Option Int
  | update _ id _ | get id | delete id => some id
  | _ => none

/-- The answers to calls in their order. -/
def answers (store : σ) : List StoreCall → List StoreAnswer
  | [] => []
  | call :: rest => (perform store call).1 :: answers (perform store call).2 rest

end StoreCall

namespace MemoryStore

/-- The memories one call away, each with the answer to the call. -/
inductive Performed (store : MemoryStore) : StoreCall → StoreAnswer → MemoryStore → Prop where
  | created (now : Instant) (document : Document) :
      Performed store (.create now document) (.created (store.lastId + 1))
        ⟨store.lastId + 1, store.records ++
          [⟨.ofDocument (store.lastId + 1) now.text now.text document, document⟩]⟩
  | updated {id : Int} (live : (store.find? id).isSome) (now : Instant) (document : Document) :
      Performed store (.update now id document) .updated
        { store with records := store.records.map fun record =>
            if record.summary.id = id then overwrite now document record else record }
  | found {id : Int} {stored : StoredStrategy} (found : store.find? id = some stored) :
      Performed store (.get id) (.found stored) store
  | listed : Performed store .list (.listed store.list) store
  | deleted {id : Int} (live : (store.find? id).isSome) :
      Performed store (.delete id) .deleted
        { store with records := store.records.filter fun record => record.summary.id ≠ id }
  | missing {call : StoreCall} {id : Int} (asked : call.id? = some id)
      (missing : store.find? id = none) : Performed store call (.refused (.notFound id)) store

theorem performed (store : MemoryStore) (call : StoreCall) :
    store.Performed call (call.perform store).1 (call.perform store).2 := by
  cases call with
  | create now document => exact .created now document
  | list => exact .listed
  | update now id document =>
    simp only [StoreCall.perform, StrategyStore.update, update]
    cases lookup : store.find? id with
    | none => exact .missing rfl lookup
    | some record => exact .updated (Option.isSome_of_eq_some lookup) now document
  | get id =>
    simp only [StoreCall.perform, StrategyStore.get, get]
    cases lookup : store.find? id with
    | none => exact .missing rfl lookup
    | some record => exact .found lookup
  | delete id =>
    simp only [StoreCall.perform, StrategyStore.delete, delete]
    cases lookup : store.find? id with
    | none => exact .missing rfl lookup
    | some record => exact .deleted (Option.isSome_of_eq_some lookup)

variable {store next : MemoryStore} {call : StoreCall} {answer : StoreAnswer}

/-- What holds of every document in the memory, and of the one that a call writes, holds of every
document afterwards. -/
theorem Performed.documents {P : Document → Prop} (performed : store.Performed call answer next)
    (kept : ∀ record ∈ store.records, P record.document)
    (written : ∀ document, call.document? = some document → P document) :
    ∀ record ∈ next.records, P record.document := by
  cases performed with
  | created now document =>
    rw [List.forall_mem_append]
    exact ⟨kept, List.forall_mem_singleton.mpr (written document rfl)⟩
  | updated live now document =>
    refine List.forall_mem_map.mpr fun record member => ?_
    split
    · exact written document rfl
    · exact kept record member
  | deleted live => exact fun record member => kept record (List.mem_filter.mp member).1
  | found | listed | missing => exact kept

/-- A record that is handed out is one that the memory holds. -/
theorem Performed.mem_of_found {stored : StoredStrategy}
    (performed : store.Performed call (.found stored) next) : stored ∈ store.records := by
  cases performed with
  | found found => exact List.mem_of_find?_eq_some found

end MemoryStore

end SignalGraph
