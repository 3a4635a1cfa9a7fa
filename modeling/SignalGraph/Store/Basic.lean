import SignalGraph.Document.Text
import SignalGraph.Instant

/-! What a store of strategies answers, whatever it keeps them in.

A store is a value; each operation that writes gives the store that comes after it. Times are
given from outside.
-/

set_option autoImplicit false

namespace SignalGraph

/-- What a list of strategies shows of each. -/
structure Summary where
  id : Int
  name : String
  description : String
  isPublic : Bool
  contentHash : String
  createdAt : String
  updatedAt : String
  deriving DecidableEq

structure StoredStrategy where
  summary : Summary
  document : Document
  deriving BEq

inductive StoreError where
  | notFound (id : Int)
  | database (cause : String)
  /-- A stored text that does not read as a document. -/
  | serialization
  deriving DecidableEq

def StoreError.message : StoreError → String
  | notFound id => s!"Strategy {id} not found"
  | database cause => s!"Database error: {cause}"
  | serialization => "Serialization error"

/-- Stores of strategies. -/
class StrategyStore (σ : Type) where
  create : σ → Instant → Document → Except StoreError (Int × σ)
  update : σ → Instant → Int → Document → Except StoreError σ
  get : σ → Int → Except StoreError StoredStrategy
  list : σ → Except StoreError (List Summary)
  delete : σ → Int → Except StoreError σ

namespace Summary

/-- The summary of a document that was created and last updated at these times. -/
def ofDocument (id : Int) (createdAt updatedAt : String) (document : Document) : Summary :=
  { id, name := document.name, description := document.description.getD "",
    isPublic := document.isPublic, contentHash := document.contentHash, createdAt, updatedAt }

/-- Last updated first; of two updated at one time the later created first. -/
def comesBefore (first second : Summary) : Bool :=
  second.updatedAt < first.updatedAt ||
  (first.updatedAt = second.updatedAt && second.id ≤ first.id)

def newestFirst (summaries : List Summary) : List Summary := summaries.mergeSort comesBefore

def toTree (summary : Summary) : Tree :=
  .object [("id", .integer summary.id), ("name", .string summary.name),
    ("description", .string summary.description), ("isPublic", .bool summary.isPublic),
    ("contentHash", .string summary.contentHash), ("createdAt", .string summary.createdAt),
    ("updatedAt", .string summary.updatedAt)]

def ofTree? (tree : Tree) : Option Summary := do
  let [id, name, description, isPublic, contentHash, createdAt, updatedAt] ← tree.slots?
    [["id"], ["name"], ["description"], ["isPublic"], ["contentHash"], ["createdAt"],
      ["updatedAt"]] | none
  return {
    id := ← id.required Tree.signed?
    name := ← name.required Tree.text?
    description := ← description.required Tree.text?
    isPublic := ← isPublic.required Tree.bool?
    contentHash := ← contentHash.required Tree.text?
    createdAt := ← createdAt.required Tree.text?
    updatedAt := ← updatedAt.required Tree.text?
  }

end Summary

end SignalGraph
