import SignalGraph.Store.Basic

/-! A store that keeps documents as they are, for as long as the program runs. -/

set_option autoImplicit false

namespace SignalGraph

structure MemoryStore where
  /-- The id given last; ids are never given twice. -/
  lastId : Int := 0
  /-- In the order of their ids. -/
  records : List StoredStrategy := []

namespace MemoryStore

def find? (store : MemoryStore) (id : Int) : Option StoredStrategy :=
  store.records.find? fun record => record.summary.id = id

def create (store : MemoryStore) (now : Instant) (document : Document) : Int × MemoryStore :=
  let id := store.lastId + 1
  (id, ⟨id, store.records ++ [⟨.ofDocument id now.text now.text document, document⟩]⟩)

/-- The record with another document; what it keeps is its id and the time of its creation. -/
def overwrite (now : Instant) (document : Document) (record : StoredStrategy) : StoredStrategy :=
  ⟨.ofDocument record.summary.id record.summary.createdAt now.text document, document⟩

def update (store : MemoryStore) (now : Instant) (id : Int) (document : Document) :
    Except StoreError MemoryStore :=
  if (store.find? id).isSome then
    .ok { store with
      records := store.records.map fun record =>
        if record.summary.id = id then overwrite now document record else record }
  else .error (.notFound id)

def get (store : MemoryStore) (id : Int) : Except StoreError StoredStrategy :=
  match store.find? id with
  | some record => .ok record
  | none => .error (.notFound id)

def list (store : MemoryStore) : List Summary :=
  Summary.newestFirst (store.records.map (·.summary))

def delete (store : MemoryStore) (id : Int) : Except StoreError MemoryStore :=
  if (store.find? id).isSome then
    .ok { store with records := store.records.filter fun record => record.summary.id ≠ id }
  else .error (.notFound id)

instance : StrategyStore MemoryStore where
  create store now document := .ok (store.create now document)
  update := update
  get := get
  list store := .ok store.list
  delete := delete

end MemoryStore

end SignalGraph
