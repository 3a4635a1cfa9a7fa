import SignalGraph.Proofs.KeyMap
import SignalGraph.Proofs.Store.Calls

/-! The records of a memory, told from the calls that were made to it.

The log of the calls and their answers says of every id whether it is in use, when it was given and
which document was written under it last. The memory holds a record of just that for each id in use,
and nothing else.
-/

set_option autoImplicit false

namespace SignalGraph

/-! ## What a log says of an id -/

/-- What was written under an id, and when. -/
structure Written where
  createdAt : Instant
  updatedAt : Instant
  document : Document

/-- A record of what was written: the summary repeats what the document says. -/
def Written.record (written : Written) (id : Int) : StoredStrategy :=
  { summary :=
      { id, name := written.document.name
        description := written.document.description.getD ""
        isPublic := written.document.isPublic
        contentHash := written.document.contentHash
        createdAt := written.createdAt.text, updatedAt := written.updatedAt.text }
    document := written.document }

/-- What a call and its answer make of what was written under an id before. -/
def StoreCall.rewrites (id : Int) (before : Option Written) :
    StoreCall → StoreAnswer → Option Written
  | create now document, .created new => if new = id then some ⟨now, now, document⟩ else before
  | update now changed document, .updated =>
    if changed = id then before.map fun written => { written with updatedAt := now, document }
    else before
  | delete removed, .deleted => if removed = id then none else before
  | _, _ => before

theorem StoreCall.rewrites_refused (id : Int) (before : Option Written) (call : StoreCall)
    (error : StoreError) : call.rewrites id before (.refused error) = before := by
  cases call <;> rfl

def StoreAnswer.issued? : StoreAnswer → Option Int
  | created id => some id
  | _ => none

/-- A memory, and the calls made to it so far with their answers, the last one first. -/
structure Archive where
  store : MemoryStore
  log : List (StoreCall × StoreAnswer)

namespace Archive

def new : Archive := ⟨{}, []⟩

def call (archive : Archive) (call : StoreCall) : Archive :=
  ⟨(call.perform archive.store).2, (call, (call.perform archive.store).1) :: archive.log⟩

/-- The archives that calls lead to. -/
inductive Reaches (first : Archive) : Archive → Prop where
  | refl : Reaches first first
  | call {archive : Archive} (reached : Reaches first archive) (call : StoreCall) :
      Reaches first (archive.call call)

/-- What is written under an id after the calls of a log. -/
def writtenIn (id : Int) : List (StoreCall × StoreAnswer) → Option Written
  | [] => none
  | (call, answer) :: earlier => call.rewrites id (writtenIn id earlier) answer

/-- What is written under an id, if it is in use. -/
def written? (archive : Archive) (id : Int) : Option Written := writtenIn id archive.log

/-- The ids that were ever given. -/
def issued (archive : Archive) : List Int := archive.log.filterMap fun event => event.2.issued?

end Archive

/-! ## Lists of summaries -/

namespace Summary

theorem comesBefore_iff {first second : Summary} :
    first.comesBefore second = true ↔ second.updatedAt < first.updatedAt ∨
      first.updatedAt = second.updatedAt ∧ second.id ≤ first.id := by
  simp [comesBefore]

theorem comesBefore_trans (first second third : Summary) (earlier : first.comesBefore second = true)
    (later : second.comesBefore third = true) : first.comesBefore third = true := by
  rw [comesBefore_iff] at *
  rcases earlier with earlier | ⟨same, below⟩
  · rcases later with later | ⟨again, -⟩
    · exact .inl (String.lt_trans later earlier)
    · exact .inl (again ▸ earlier)
  · rcases later with later | ⟨again, further⟩
    · exact .inl (same ▸ later)
    · exact .inr ⟨same.trans again, Int.le_trans further below⟩

theorem comesBefore_total (first second : Summary) :
    (first.comesBefore second || second.comesBefore first) = true := by
  rw [Bool.or_eq_true, comesBefore_iff, comesBefore_iff]
  by_cases before : second.updatedAt < first.updatedAt
  · exact .inl (.inl before)
  · by_cases after : first.updatedAt < second.updatedAt
    · exact .inr (.inl after)
    · have same := String.le_antisymm (String.not_lt.mp before) (String.not_lt.mp after)
      exact (Int.le_total second.id first.id).imp (fun le => .inr ⟨same, le⟩)
        fun le => .inr ⟨same.symm, le⟩

/-- A summary comes before another that was updated earlier, or at the same time under a smaller
id. -/
def Precedes (first second : Summary) : Prop :=
  second.updatedAt < first.updatedAt ∨
    first.updatedAt = second.updatedAt ∧ second.id < first.id

theorem newestFirst_pairwise {summaries : List Summary}
    (distinct : (summaries.map (·.id)).Nodup) : (newestFirst summaries).Pairwise Precedes := by
  have ordered : (newestFirst summaries).Pairwise fun first second =>
      first.comesBefore second = true :=
    List.pairwise_mergeSort comesBefore_trans comesBefore_total summaries
  have apart : (newestFirst summaries).Pairwise fun first second => first.id ≠ second.id := by
    have moved := (List.mergeSort_perm summaries comesBefore).map (·.id)
    exact List.pairwise_map.mp (moved.nodup_iff.mpr distinct)
  -- Sorting lets equals stand in either order; ids that differ leave only one.
  refine ordered.imp₂ (fun first second before different => ?_) apart
  refine (comesBefore_iff.mp before).imp_right fun ⟨same, le⟩ => ⟨same, ?_⟩
  exact Int.lt_iff_le_and_ne.mpr ⟨le, different.symm⟩

end Summary

/-! ## The memory and its log -/

namespace MemoryStore

/-- The record of an id after the records are changed one by one, and none is given another id. -/
theorem find?_map_records (records : List StoredStrategy) (lastId id : Int)
    {change : StoredStrategy → StoredStrategy}
    (keeps : ∀ record, (change record).summary.id = record.summary.id) :
    find? ⟨lastId, records.map change⟩ id = (find? ⟨lastId, records⟩ id).map change := by
  simp only [find?, List.find?_map, Function.comp_def, keeps]

end MemoryStore

namespace Archive

variable {archive : Archive}

/-- The memory holds what the log says, each id once and none that was not given. -/
structure Faithful (archive : Archive) : Prop where
  found : ∀ id, archive.store.find? id = (archive.written? id).map (·.record id)
  distinct : (archive.store.records.map (·.summary.id)).Nodup
  known : ∀ record ∈ archive.store.records, record.summary.id ∈ archive.issued
  bounded : ∀ id ∈ archive.issued, id ≤ archive.store.lastId

section Step

variable {store next : MemoryStore} {log : List (StoreCall × StoreAnswer)} {id : Int}
  (faithful : Faithful ⟨store, log⟩)
include faithful

theorem Faithful.id_le {record : StoredStrategy} (member : record ∈ store.records) :
    record.summary.id ≤ store.lastId :=
  faithful.bounded _ (faithful.known record member)

theorem Faithful.created (now : Instant) (document : Document) :
    Faithful ⟨(store.create now document).2,
      (.create now document, .created (store.lastId + 1)) :: log⟩ := by
  have apart : ∀ record ∈ store.records, record.summary.id ≠ store.lastId + 1 :=
    fun record member => Int.ne_of_lt (Int.lt_add_one_of_le (faithful.id_le member))
  refine ⟨fun id => ?_, ?_, ?_, ?_⟩
  · have found := faithful.found id
    simp only [MemoryStore.find?, written?] at found
    simp only [MemoryStore.find?, MemoryStore.create, List.find?_append, found, written?, writtenIn,
      StoreCall.rewrites]
    by_cases new : store.lastId + 1 = id
    · -- The search goes from the first record on, so an older one under the new id would hide it.
      have unused : store.records.find? (fun record => record.summary.id = id) = none := by
        refine List.find?_eq_none.mpr fun record member => ?_
        simpa [← new] using apart record member
      rw [← found, unused]
      simp [new, Summary.ofDocument, Written.record]
    · simp [new, Summary.ofDocument]
  · rw [MemoryStore.create, List.map_append, List.nodup_append]
    refine ⟨faithful.distinct, List.nodup_singleton _, fun old member new last => ?_⟩
    obtain ⟨record, held, rfl⟩ := List.mem_map.mp member
    rw [List.mem_singleton.mp last]
    exact apart record held
  · refine List.forall_mem_append.mpr ⟨fun record member => ?_, ?_⟩
    · exact List.mem_cons_of_mem _ (faithful.known record member)
    · exact List.forall_mem_singleton.mpr List.mem_cons_self
  · refine List.forall_mem_cons.mpr ⟨Int.le_refl _, fun id member => ?_⟩
    exact Int.le_add_one (faithful.bounded id member)

theorem Faithful.updated (now : Instant) (target : Int) (document : Document) :
    Faithful ⟨{ store with records := store.records.map fun record =>
      if record.summary.id = target then MemoryStore.overwrite now document record else record },
      (.update now target document, .updated) :: log⟩ := by
  have keeps : ∀ record : StoredStrategy, (if record.summary.id = target then
      MemoryStore.overwrite now document record else record).summary.id = record.summary.id := by
    intro record
    split <;> rfl
  refine ⟨fun id => ?_, ?_, ?_, faithful.bounded⟩
  · have found := faithful.found id
    simp only [written?] at found
    simp only [written?, writtenIn, StoreCall.rewrites]
    rw [MemoryStore.find?_map_records _ _ _ keeps, found, Option.map_map]
    by_cases same : target = id
    · subst same
      rw [if_pos rfl, Option.map_map]
      exact congrArg (Option.map · _) (funext fun written => if_pos rfl)
    · have other : id ≠ target := Ne.symm same
      simp [same, other, Function.comp_def, Written.record]
  · rw [List.map_map]
    simpa only [Function.comp_def, keeps] using faithful.distinct
  · refine List.forall_mem_map.mpr fun record member => ?_
    rw [keeps]
    exact faithful.known record member

theorem Faithful.deleted (target : Int) :
    Faithful
      ⟨{ store with records := store.records.filter fun record => record.summary.id ≠ target },
        (.delete target, .deleted) :: log⟩ := by
  have fewer := List.filter_sublist (p := fun record : StoredStrategy =>
    decide (record.summary.id ≠ target)) (l := store.records)
  refine ⟨fun id => ?_, faithful.distinct.sublist (fewer.map _),
    fun record member => faithful.known record (fewer.subset member), faithful.bounded⟩
  have found := faithful.found id
  simp only [MemoryStore.find?, written?] at found
  simp only [MemoryStore.find?, List.find?_filter, written?, writtenIn, StoreCall.rewrites]
  by_cases same : target = id
  · subst same
    simp
  · rw [if_neg same, ← found]
    refine congrArg (List.find? · store.records) (funext fun record => ?_)
    by_cases here : record.summary.id = id <;> simp [here, Ne.symm same]

theorem Faithful.performed {call : StoreCall} {answer : StoreAnswer}
    (performed : store.Performed call answer next) : Faithful ⟨next, (call, answer) :: log⟩ := by
  cases performed with
  | created now document => exact faithful.created now document
  | @updated id live now document => exact faithful.updated now id document
  | @deleted id live => exact faithful.deleted id
  | found | listed =>
    exact ⟨faithful.found, faithful.distinct, faithful.known, faithful.bounded⟩
  | missing =>
    refine ⟨fun id => ?_, faithful.distinct, faithful.known, faithful.bounded⟩
    rw [written?, writtenIn, StoreCall.rewrites_refused]
    exact faithful.found id

end Step

theorem Reaches.faithful (reached : new.Reaches archive) : archive.Faithful := by
  induction reached with
  | refl =>
    exact ⟨fun _ => rfl, List.nodup_nil, fun _ none => absurd none List.not_mem_nil,
      fun _ none => absurd none List.not_mem_nil⟩
  | call _ call ih => exact ih.performed (MemoryStore.performed _ call)

namespace Faithful

variable (faithful : archive.Faithful)
include faithful

theorem get_eq (id : Int) : archive.store.get id =
    match archive.written? id with
    | some written => .ok (written.record id)
    | none => .error (.notFound id) := by
  rw [MemoryStore.get, faithful.found id]
  cases archive.written? id <;> rfl

theorem mem_records_iff (record : StoredStrategy) : record ∈ archive.store.records ↔
    ∃ id written, archive.written? id = some written ∧ record = written.record id := by
  constructor
  · intro member
    have here : archive.store.find? record.summary.id = some record :=
      find?_key_of_mem faithful.distinct member
    rw [faithful.found] at here
    obtain ⟨written, known, same⟩ := Option.map_eq_some_iff.mp here
    exact ⟨_, written, known, same.symm⟩
  · rintro ⟨id, written, known, rfl⟩
    have here : archive.store.find? id = some (written.record id) := by
      rw [faithful.found, known, Option.map_some]
    exact List.mem_of_find?_eq_some here

/-- Whether an id is in use is all that a memory looks at before it writes over a record. -/
theorem isSome_find? (id : Int) :
    (archive.store.find? id).isSome = (archive.written? id).isSome := by
  rw [faithful.found, Option.isSome_map]

/-- A call leaves alone what was written under an id that it neither writes nor gives. -/
theorem get_perform {call : StoreCall} {id : Int}
    (unwritten : ∀ now document, call ≠ .update now id document) (undeleted : call ≠ .delete id)
    (uncreated : (call.perform archive.store).1 ≠ .created id) :
    (call.perform archive.store).2.get id = archive.store.get id := by
  -- What the log says is enough: the memory is faithful to it before the call and after.
  have kept : (archive.call call).written? id = archive.written? id := by
    rw [written?, Archive.call, writtenIn, written?]
    generalize (call.perform archive.store).1 = answer at uncreated
    cases call <;> cases answer <;> simp_all [StoreCall.rewrites]
  have next : (archive.call call).Faithful := performed faithful (MemoryStore.performed _ call)
  have after := next.get_eq id
  rw [kept] at after
  exact after.trans (faithful.get_eq id).symm

end Faithful

/-! ## Records that stay consistent -/

/-- What holds of a memory after the calls of the log, and of the call that comes next. -/
structure KeepsRecords (archive : Archive) : Prop where
  /-- An id gives the document written under it last, if it was given and not deleted since. -/
  gives : ∀ id, archive.store.get id =
    match archive.written? id with
    | some written => .ok (written.record id)
    | none => .error (.notFound id)
  /-- A summary repeats what the document says, under the id that gives the record. -/
  summarizes : ∀ record ∈ archive.store.records,
    archive.store.get record.summary.id = .ok record ∧
    record.summary.name = record.document.name ∧
    record.summary.description = record.document.description.getD "" ∧
    record.summary.isPublic = record.document.isPublic ∧
    record.summary.contentHash = record.document.contentHash
  /-- A new id is larger than any that was given before. -/
  creates : ∀ now document, ∃ id, (StoreCall.create now document).perform archive.store =
      (.created id, (archive.store.create now document).2) ∧
    ∀ earlier ∈ archive.issued, earlier < id
  /-- An id that is in use can be written over and deleted. -/
  accepts : ∀ id, (archive.written? id).isSome → ∀ now document,
    ((StoreCall.update now id document).perform archive.store).1 = .updated ∧
    ((StoreCall.delete id).perform archive.store).1 = .deleted
  /-- An id that is not in use is refused, and nothing changes. -/
  refuses : ∀ id, archive.written? id = none → ∀ now document,
    (StoreCall.update now id document).perform archive.store =
      (.refused (.notFound id), archive.store) ∧
    (StoreCall.delete id).perform archive.store = (.refused (.notFound id), archive.store)
  /-- A call changes no record but the one that it is about or that it creates. -/
  others : ∀ (call : StoreCall) (id : Int), (∀ now document, call ≠ .update now id document) →
    call ≠ .delete id → (call.perform archive.store).1 ≠ .created id →
    (call.perform archive.store).2.get id = archive.store.get id
  /-- A list shows the summary of every id in use, once. -/
  lists : ∀ summary, summary ∈ archive.store.list ↔
    ∃ id written, archive.written? id = some written ∧ summary = (written.record id).summary
  once : (archive.store.list.map (·.id)).Nodup
  ordered : archive.store.list.Pairwise Summary.Precedes

/-- Whatever calls are made to a new memory, it keeps its records consistent. -/
theorem reaches_keepsRecords (reached : new.Reaches archive) : archive.KeepsRecords := by
  have faithful := reached.faithful
  have listed : ∀ summary, summary ∈ archive.store.list ↔
      ∃ record ∈ archive.store.records, record.summary = summary := fun summary =>
    (List.mergeSort_perm _ _).mem_iff.trans List.mem_map
  have ids : ((archive.store.records.map (·.summary)).map (·.id)).Nodup := by
    rw [List.map_map]
    exact faithful.distinct
  refine
    { gives := faithful.get_eq
      summarizes := fun record member => ?summarizes
      creates := fun now document => ?creates
      accepts := fun id used now document => ?accepts
      refuses := fun id unused now document => ?refuses
      others := fun call id => faithful.get_perform
      lists := fun summary => ?lists
      once :=
        ((List.mergeSort_perm _ _).map (fun summary : Summary => summary.id)).nodup_iff.mpr ids
      ordered := Summary.newestFirst_pairwise ids }
  case summarizes =>
    obtain ⟨id, written, known, rfl⟩ := (faithful.mem_records_iff record).mp member
    refine ⟨?_, rfl, rfl, rfl, rfl⟩
    have gives := faithful.get_eq id
    rwa [known] at gives
  case creates =>
    refine ⟨archive.store.lastId + 1, rfl, fun earlier given => ?_⟩
    exact Int.lt_add_one_of_le (faithful.bounded earlier given)
  case accepts =>
    have live := (faithful.isSome_find? id).trans used
    simp [StoreCall.perform, StrategyStore.update, StrategyStore.delete, MemoryStore.update,
      MemoryStore.delete, live]
  case refuses =>
    have missing : (archive.store.find? id).isSome = false := by
      rw [faithful.isSome_find?, unused, Option.isSome_none]
    simp [StoreCall.perform, StrategyStore.update, StrategyStore.delete, MemoryStore.update,
      MemoryStore.delete, missing]
  case lists =>
    rw [listed]
    constructor
    · rintro ⟨record, member, rfl⟩
      obtain ⟨id, written, known, rfl⟩ := (faithful.mem_records_iff record).mp member
      exact ⟨id, written, known, rfl⟩
    · rintro ⟨id, written, known, rfl⟩
      exact ⟨_, (faithful.mem_records_iff _).mpr ⟨id, written, known, rfl⟩, rfl⟩

/-- The second of two strategies is deleted, and the one created after it gets an id of its own. -/
theorem keepsRecords_recreated :
    let named (name : String) : Document :=
      { name, description := none, graph := ⟨[], []⟩, config := .empty, isPublic := false }
    let archive := ((((new.call (.create ⟨1000000⟩ (named "Breakout"))).call
      (.create ⟨2000000⟩ (named "Range"))).call (.delete 2)).call
      (.create ⟨3000000⟩ (named "Trend"))).call (.update ⟨4000000⟩ 1 (named "Reversal"))
    new.Reaches archive ∧ archive.issued = [3, 2, 1] ∧
      archive.store.records.map (fun record => (record.summary.id, record.summary.name)) =
        [(1, "Reversal"), (3, "Trend")] ∧
      archive.KeepsRecords := by
  intro named archive
  have reached : new.Reaches archive := .call (.call (.call (.call (.call .refl _) _) _) _) _
  exact ⟨reached, by decide +kernel, by decide +kernel, reaches_keepsRecords reached⟩

end Archive

end SignalGraph
