import SignalGraph.Store.Basic

/-! A store that keeps rows of a table: documents as text, beside the columns that a list of
strategies shows. A document is read from its text whenever it is asked for.
-/

set_option autoImplicit false

namespace SignalGraph

structure TableRow where
  id : Int
  name : String
  description : String
  isPublic : Bool
  documentText : String
  contentHash : String
  createdAt : String
  updatedAt : String

def TableRow.summary (row : TableRow) : Summary :=
  { id := row.id, name := row.name, description := row.description, isPublic := row.isPublic,
    contentHash := row.contentHash, createdAt := row.createdAt, updatedAt := row.updatedAt }

structure TableStore where
  /-- The largest id ever given; a deleted id does not come back. -/
  lastId : Int := 0
  rows : List TableRow := []

namespace TableStore

def find? (store : TableStore) (id : Int) : Option TableRow :=
  store.rows.find? fun row => row.id = id

def create (store : TableStore) (now : Instant) (document : Document) : Int × TableStore :=
  let id := store.lastId + 1
  let row : TableRow :=
    { id, name := document.name, description := document.description.getD "",
      isPublic := document.isPublic, documentText := document.compact,
      contentHash := document.contentHash, createdAt := now.text, updatedAt := now.text }
  (id, ⟨id, store.rows ++ [row]⟩)

def overwrite (now : Instant) (document : Document) (row : TableRow) : TableRow :=
  { row with
    name := document.name, description := document.description.getD ""
    isPublic := document.isPublic, documentText := document.compact
    contentHash := document.contentHash, updatedAt := now.text }

def update (store : TableStore) (now : Instant) (id : Int) (document : Document) :
    Except StoreError TableStore :=
  if (store.find? id).isSome then
    .ok { store with
      rows := store.rows.map fun row => if row.id = id then overwrite now document row else row }
  else .error (.notFound id)

def get (store : TableStore) (id : Int) : Except StoreError StoredStrategy :=
  match store.find? id with
  | none => .error (.notFound id)
  | some row =>
    match Document.ofStored? row.documentText with
    | some document => .ok ⟨row.summary, document⟩
    | none => .error .serialization

def list (store : TableStore) : List Summary :=
  Summary.newestFirst (store.rows.map TableRow.summary)

def delete (store : TableStore) (id : Int) : Except StoreError TableStore :=
  if (store.find? id).isSome then
    .ok { store with rows := store.rows.filter fun row => row.id ≠ id }
  else .error (.notFound id)

instance : StrategyStore TableStore where
  create store now document := .ok (store.create now document)
  update := update
  get := get
  list store := .ok store.list
  delete := delete

end TableStore

end SignalGraph
