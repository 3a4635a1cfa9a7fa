import SignalGraph.Proofs.Document.Text
import SignalGraph.Proofs.Store.Calls
import SignalGraph.Store.Table

/-! A table and a memory side by side.

A table holds a row for each record of a memory, and every call keeps it so. The answers are the
same but for a document that is asked for: the table reads it from its text, which gives back the
document that was written only if that is portable.
-/

set_option autoImplicit false

namespace SignalGraph

/-! ## What a table makes of a record -/

namespace Document

theorem ofStored?_compact (document : Document) :
    ofStored? document.compact =
      Reading.straight.read? ofTree? (document.toTree.readBack Tree.depthLimit) := by
  rw [ofStored?, compact, Tree.read?_compact]
  rfl

/-- A document is not read at all from a text that holds a coordinate which is no number. -/
theorem finite_of_ofStored? {document other : Document}
    (read : ofStored? document.compact = some other) :
    ∀ node ∈ document.graph.nodes, node.IsFinite := by
  rw [ofStored?_compact] at read
  obtain ⟨nodes, -⟩ := (read?_iff .straight document 122).mp read
  exact ((List.forall₂_and_left _ _).mp nodes).1

end Document

namespace StoredStrategy

/-- The row of a table that holds the record. -/
def row (stored : StoredStrategy) : TableRow :=
  { id := stored.summary.id, name := stored.summary.name
    description := stored.summary.description, isPublic := stored.summary.isPublic
    documentText := stored.document.compact, contentHash := stored.summary.contentHash
    createdAt := stored.summary.createdAt, updatedAt := stored.summary.updatedAt }

/-- The record as it is read from its row. -/
def reread (stored : StoredStrategy) : Except StoreError StoredStrategy :=
  match Document.ofStored? stored.document.compact with
  | some document => .ok { stored with document }
  | none => .error .serialization

theorem reread_eq_self_iff (stored : StoredStrategy) :
    stored.reread = .ok stored ↔ stored.document.Portable .straight := by
  rw [← Document.read?_iff_portable .straight trivial, ← Document.ofStored?_compact, reread]
  cases Document.ofStored? stored.document.compact with
  | none => simp
  | some document =>
    obtain ⟨summary, original⟩ := stored
    simp

theorem reread_eq_error_iff (stored : StoredStrategy) :
    stored.reread = .error .serialization ↔ Document.ofStored? stored.document.compact = none := by
  unfold reread
  cases Document.ofStored? stored.document.compact <;> simp

end StoredStrategy

/-- The answer of a table where a memory answers this. -/
def StoreAnswer.reread : StoreAnswer → StoreAnswer
  | found stored =>
    match stored.reread with
    | .ok stored => .found stored
    | .error error => .refused error
  | answer => answer

theorem StoreAnswer.reread_found_of_error {stored : StoredStrategy} {error : StoreError}
    (failed : stored.reread = .error error) : (found stored).reread = .refused error := by
  simp only [reread, failed]

theorem StoreAnswer.reread_eq_self_iff (answer : StoreAnswer) :
    answer.reread = answer ↔
      ∀ stored, answer = .found stored → stored.document.Portable .straight := by
  cases answer with
  | found stored =>
    simp only [reread, found.injEq, forall_eq', ← stored.reread_eq_self_iff]
    cases stored.reread <;> simp
  | _ => simp [reread]

namespace MemoryStore

variable (store : MemoryStore) (now : Instant) (id : Int) (document : Document)

/-- The table that holds what the memory does. -/
def table : TableStore := ⟨store.lastId, store.records.map StoredStrategy.row⟩

theorem table_find? : store.table.find? id = (store.find? id).map StoredStrategy.row :=
  List.find?_map ..

theorem table_create :
    store.table.create now document =
      ((store.create now document).1, (store.create now document).2.table) := by
  simp only [table, create, List.map_append]
  rfl

theorem table_update :
    store.table.update now id document = (store.update now id document).map table := by
  simp only [TableStore.update, update, table_find?, Option.isSome_map]
  split
  · simp only [table, Except.map, List.map_map]
    congr 2
    refine List.map_congr_left fun record _ => Eq.symm ?_
    exact apply_ite StoredStrategy.row (record.summary.id = id) (overwrite now document record) _
  · rfl

theorem table_get : store.table.get id = (store.get id).bind StoredStrategy.reread := by
  simp only [TableStore.get, get, table_find?]
  cases store.find? id with
  | none => rfl
  | some stored => rfl

theorem table_list : store.table.list = store.list := by
  simp only [TableStore.list, list, table, List.map_map]
  rfl

theorem table_delete : store.table.delete id = (store.delete id).map table := by
  simp only [TableStore.delete, delete, table_find?, Option.isSome_map]
  split
  · simp only [table, Except.map, List.filter_map]
    rfl
  · rfl

end MemoryStore

namespace StoreCall

/-- A call does to the table of a memory what it does to the memory. -/
theorem perform_table (store : MemoryStore) (call : StoreCall) :
    perform store.table call =
      ((perform store call).1.reread, (perform store call).2.table) := by
  cases call with
  | create now document =>
    simp only [perform, StrategyStore.create, MemoryStore.table_create, StoreAnswer.reread]
  | update now id document =>
    simp only [perform, StrategyStore.update, MemoryStore.table_update]
    cases store.update now id document <;> rfl
  | get id =>
    simp only [perform, StrategyStore.get, MemoryStore.table_get]
    cases store.get id with
    | error => rfl
    | ok stored =>
      simp only [Except.bind, StoreAnswer.reread]
      cases stored.reread <;> rfl
  | list => simp only [perform, StrategyStore.list, MemoryStore.table_list, StoreAnswer.reread]
  | delete id =>
    simp only [perform, StrategyStore.delete, MemoryStore.table_delete]
    cases store.delete id <;> rfl

theorem answers_table (store : MemoryStore) (calls : List StoreCall) :
    answers store.table calls = (answers store calls).map StoreAnswer.reread := by
  induction calls generalizing store with
  | nil => rfl
  | cons call rest ih => rw [answers, perform_table, ih, answers, List.map_cons]

/-- What holds of every document written holds of every one that is handed out. -/
theorem found_of_written {P : Document → Prop} {store : MemoryStore} {calls : List StoreCall}
    (kept : ∀ record ∈ store.records, P record.document)
    (written : ∀ call ∈ calls, ∀ document, call.document? = some document → P document) :
    ∀ stored, .found stored ∈ answers store calls → P stored.document := by
  induction calls generalizing store with
  | nil => exact fun stored member => absurd member List.not_mem_nil
  | cons call rest ih =>
    obtain ⟨first, later⟩ := List.forall_mem_cons.mp written
    intro stored member
    rcases List.mem_cons.mp member with here | after
    · exact kept stored (MemoryStore.Performed.mem_of_found (here ▸ store.performed call))
    · exact ih ((store.performed call).documents kept first) later stored after

/-- The answers of a new table are those of a new memory, with documents read from their texts. They
are the same just when all documents that are asked for are portable, as they are when all that are
written are. -/
theorem answers_same_iff (calls : List StoreCall) :
    answers ({} : TableStore) calls =
      (answers ({} : MemoryStore) calls).map StoreAnswer.reread ∧
    (answers ({} : TableStore) calls = answers ({} : MemoryStore) calls ↔
      ∀ stored, .found stored ∈ answers ({} : MemoryStore) calls →
        stored.document.Portable .straight) ∧
    ((∀ call ∈ calls, ∀ document, call.document? = some document →
        document.Portable .straight) →
      answers ({} : TableStore) calls = answers ({} : MemoryStore) calls) := by
  have answered : answers ({} : TableStore) calls =
      (answers ({} : MemoryStore) calls).map StoreAnswer.reread := answers_table {} calls
  have same : answers ({} : TableStore) calls = answers ({} : MemoryStore) calls ↔
      ∀ stored, .found stored ∈ answers ({} : MemoryStore) calls →
        stored.document.Portable .straight := by
    have pointwise := List.map_inj_left (f := StoreAnswer.reread) (g := id)
      (l := answers ({} : MemoryStore) calls)
    rw [answered]
    simp only [List.map_id_fun, id_eq, StoreAnswer.reread_eq_self_iff] at pointwise
    rw [pointwise]
    exact ⟨fun portable stored member => portable _ member stored rfl,
      fun portable answer member stored found => portable stored (found ▸ member)⟩
  refine ⟨answered, same, fun written => same.mpr ?_⟩
  exact found_of_written (fun record member => absurd member List.not_mem_nil) written

/-- A document with a coordinate that is no number is stored by both, but only the memory gives it
back. Without that node the two answer alike. -/
theorem answers_same_nan :
    let plain : Document :=
      { name := "Breakout", description := none, graph := ⟨[], []⟩, config := .empty
        isPublic := false }
    let document : Document :=
      { plain with graph.nodes :=
          [{ id := some "a", kind := "signal_output", position := some ⟨.nan, 0.0⟩
             parameters := .empty, label := "" }] }
    let calls (document : Document) := [.create ⟨0⟩ document, .get 1]
    let summary : Summary := .ofDocument 1 (Instant.text ⟨0⟩) (Instant.text ⟨0⟩) document
    answers ({} : TableStore) (calls document) = [.created 1, .refused .serialization] ∧
      answers ({} : MemoryStore) (calls document) = [.created 1, .found ⟨summary, document⟩] ∧
      answers ({} : TableStore) (calls plain) = answers ({} : MemoryStore) (calls plain) := by
  intro plain document calls summary
  have memory : answers ({} : MemoryStore) (calls document) =
      [.created 1, .found ⟨summary, document⟩] := rfl
  have unread : Document.ofStored? document.compact = none := by
    refine Option.eq_none_iff_forall_ne_some.mpr fun other read => ?_
    exact (Document.finite_of_ofStored? read _ List.mem_cons_self _ rfl).1
  have portable : plain.Portable .straight :=
    { finite := fun _ member => absurd member List.not_mem_nil
      shallow := by decide +kernel
      parameters := fun _ member => absurd member List.not_mem_nil
      config := trivial }
  refine ⟨?_, memory, (answers_same_iff (calls plain)).2.2 ?_⟩
  · have refused := (StoredStrategy.mk summary document).reread_eq_error_iff.mpr unread
    rw [(answers_same_iff (calls document)).1, memory, List.map_cons, List.map_cons, List.map_nil,
      StoreAnswer.reread_found_of_error refused]
    rfl
  · intro call member written found
    rcases List.mem_cons.mp member with rfl | later
    · exact Option.some.inj found ▸ portable
    · rw [List.mem_singleton.mp later] at found
      cases found

end StoreCall

end SignalGraph
