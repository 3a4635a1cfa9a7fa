import SignalGraph.Proofs.History

/-! A history as a present between a past and a future.

`Pointed` is the undo list that a history stands for: every call does to the history what it does to
that list. `Bare` is the same line of snapshots with nothing known about its cursor, so that a step
fails where it would read outside of the line or count below zero; no step of a run does.
-/

set_option autoImplicit false

namespace SignalGraph

variable {α : Type}

/-- What can be asked of a history. -/
inductive HistoryCall (α : Type) where
  | push (snapshot : α)
  | undo
  | redo
  | reset (snapshot : α)

inductive HistoryAnswer (α : Type) where
  /-- Whether the snapshot was recorded. -/
  | pushed (recorded : Bool)
  /-- The snapshot that an undo or a redo leads to. -/
  | recalled (snapshot : α)
  | started

/-! ## Calls to a history -/

namespace History

variable [BEq α]

def perform (history : History α) : HistoryCall α → HistoryAnswer α × History α
  | .push snapshot => (.pushed (history.push? snapshot).isSome, history.push snapshot)
  | .undo => (.recalled history.undo.current, history.undo)
  | .redo => (.recalled history.redo.current, history.redo)
  | .reset snapshot => (.started, history.reset snapshot)

/-- The answers to calls in their order, and the history after them. -/
def run (history : History α) : List (HistoryCall α) → List (HistoryAnswer α) × History α
  | [] => ([], history)
  | call :: rest =>
    let (answer, next) := history.perform call
    let (answers, last) := next.run rest
    (answer :: answers, last)

theorem perform_limit (history : History α) (call : HistoryCall α) :
    (history.perform call).2.limit = history.limit := by
  cases call with
  | push snapshot => exact history.push_limit snapshot
  | redo => exact history.redo_limit
  | undo | reset => rfl

theorem Fits.perform {history : History α} (fits : history.Fits) (call : HistoryCall α) :
    (history.perform call).2.Fits := by
  cases call with
  | push snapshot => exact fits.push snapshot
  | undo => exact fits
  | redo =>
    rw [Fits, perform_limit]
    exact Nat.le_trans (Nat.le_of_eq (congrArg List.length history.redo_snapshots)) fits
  | reset snapshot => exact history.limit_pos

theorem run_fits {history : History α} (fits : history.Fits) (calls : List (HistoryCall α)) :
    (history.run calls).2.Fits ∧ (history.run calls).2.limit = history.limit := by
  induction calls generalizing history with
  | nil => exact ⟨fits, rfl⟩
  | cons call rest ih =>
    obtain ⟨fitsAfter, limit⟩ := ih (fits.perform call)
    exact ⟨fitsAfter, limit.trans (history.perform_limit call)⟩

end History

/-! ## The list between past and future -/

/-- The present with all that was before it, the last of it first, and all that was undone, the next
to redo first. -/
structure Pointed (α : Type) where
  past : List α
  present : α
  future : List α
  deriving DecidableEq

namespace Pointed

def start (snapshot : α) : Pointed α := ⟨[], snapshot, []⟩

def undo : Pointed α → Pointed α
  | ⟨[], present, future⟩ => ⟨[], present, future⟩
  | ⟨last :: past, present, future⟩ => ⟨past, last, present :: future⟩

def redo : Pointed α → Pointed α
  | ⟨past, present, []⟩ => ⟨past, present, []⟩
  | ⟨past, present, next :: future⟩ => ⟨present :: past, next, future⟩

/-- The present joins the past, of which so much is kept that there is room for the new present. -/
def append (bound : Nat) (list : Pointed α) (snapshot : α) : Pointed α :=
  ⟨(list.present :: list.past).take (bound - 1), snapshot, []⟩

variable [BEq α]

def push (bound : Nat) (list : Pointed α) (snapshot : α) : Pointed α :=
  if list.present == snapshot then list else list.append bound snapshot

def perform (bound : Nat) (list : Pointed α) : HistoryCall α → HistoryAnswer α × Pointed α
  | .push snapshot => (.pushed (!(list.present == snapshot)), list.push bound snapshot)
  | .undo => (.recalled list.undo.present, list.undo)
  | .redo => (.recalled list.redo.present, list.redo)
  | .reset snapshot => (.started, start snapshot)

def run (bound : Nat) (list : Pointed α) : List (HistoryCall α) → List (HistoryAnswer α) × Pointed α
  | [] => ([], list)
  | call :: rest =>
    let (answer, next) := list.perform bound call
    let (answers, last) := next.run bound rest
    (answer :: answers, last)

end Pointed

namespace History

variable {history : History α}

/-- The list that the history stands for. -/
def pointed (history : History α) : Pointed α where
  past := (history.snapshots.take history.cursor).reverse
  present := history.current
  future := history.snapshots.drop (history.cursor + 1)

theorem pointed_of_split {past future : List α} {present : α}
    (split : history.snapshots = past ++ present :: future)
    (length : past.length = history.cursor) :
    history.pointed = ⟨past.reverse, present, future⟩ := by
  have current : history.current = present := by
    rw [current_eq_iff, split, ← length]
    simp
  simp [pointed, current, split, ← length]

/-- The line at its cursor. -/
theorem exists_split (history : History α) : ∃ past future,
    history.snapshots = past ++ history.current :: future ∧ past.length = history.cursor := by
  have inside := history.cursor_lt
  refine ⟨history.snapshots.take history.cursor, history.snapshots.drop (history.cursor + 1),
    ?_, ?_⟩
  · have here : history.snapshots[history.cursor] = history.current := rfl
    rw [← here, List.getElem_cons_drop, List.take_append_drop]
  · rw [List.length_take]
    omega

theorem pointed_undo (history : History α) : history.undo.pointed = history.pointed.undo := by
  obtain ⟨past, future, split, length⟩ := history.exists_split
  rw [pointed_of_split split length]
  rcases List.eq_nil_or_concat past with rfl | ⟨older, last, rfl⟩
  · have oldest : history.cursor = 0 := length.symm
    rw [undo_of_oldest (by simp [canUndo, oldest]), pointed_of_split split length]
    rfl
  · rw [List.concat_eq_append] at split length ⊢
    rw [List.length_append, List.length_singleton] at length
    have back : history.undo.snapshots = older ++ last :: history.current :: future := by
      rw [undo_snapshots, split, List.append_assoc, List.singleton_append]
    rw [pointed_of_split back (by rw [undo_cursor]; omega), List.reverse_concat]
    rfl

theorem redo_cursor (history : History α) :
    history.redo.cursor =
      if history.cursor + 1 < history.snapshots.length then history.cursor + 1
      else history.cursor := by
  unfold redo
  split <;> rfl

theorem pointed_redo (history : History α) : history.redo.pointed = history.pointed.redo := by
  obtain ⟨past, future, split, length⟩ := history.exists_split
  have longer := congrArg List.length split
  rw [List.length_append, List.length_cons] at longer
  rw [pointed_of_split split length]
  cases future with
  | nil =>
    rw [List.length_nil] at longer
    have newest : history.canRedo = false := by
      rw [canRedo, decide_eq_false_iff_not]
      omega
    rw [redo_of_newest newest, pointed_of_split split length]
    rfl
  | cons next future =>
    rw [List.length_cons] at longer
    have inside : history.cursor + 1 < history.snapshots.length := by omega
    have forth : history.redo.snapshots = (past ++ [history.current]) ++ next :: future := by
      rw [redo_snapshots, split, List.append_assoc, List.singleton_append]
    have place : (past ++ [history.current]).length = history.redo.cursor := by
      rw [redo_cursor, if_pos inside, List.length_append, length, List.length_singleton]
    rw [pointed_of_split forth place, List.reverse_concat]
    rfl

theorem pointed_reset (history : History α) (snapshot : α) :
    (history.reset snapshot).pointed = .start snapshot := rfl

theorem pointed_append (history : History α) (snapshot : α) :
    (history.append snapshot).pointed = history.pointed.append history.limit snapshot := by
  obtain ⟨past, future, split, length⟩ := history.exists_split
  have positive := history.limit_pos
  have line : history.line = past ++ [history.current] := by
    rw [History.line, split, ← length, List.append_cons, List.take_left' (by simp)]
  let overflow := (history.line ++ [snapshot]).length - history.limit
  have overflow_eq : overflow = history.cursor + 2 - history.limit := by simp [overflow]
  have kept :
      (history.append snapshot).snapshots = history.line.drop overflow ++ snapshot :: [] := by
    rw [snapshots_append, List.drop_append_of_le_length]
    rw [length_line]
    omega
  have place : (history.line.drop overflow).length = (history.append snapshot).cursor := by
    rw [cursor_append, List.length_drop, length_line]
  -- Dropping from the oldest end is taking from the newest.
  have newest : (history.line.drop overflow).reverse =
      (history.current :: past.reverse).take (history.limit - 1) := by
    rw [List.reverse_drop, length_line, line, List.reverse_concat, List.take_eq_take_iff,
      List.length_cons, List.length_reverse]
    omega
  rw [pointed_of_split kept place, pointed_of_split split length, newest]
  rfl

theorem pointed_push [BEq α] (history : History α) (snapshot : α) :
    (history.push snapshot).pointed = history.pointed.push history.limit snapshot := by
  cases same : history.current == snapshot with
  | true =>
    have present : (history.pointed.present == snapshot) = true := same
    rw [push_of_same same, Pointed.push, if_pos present]
  | false =>
    have present : ¬(history.pointed.present == snapshot) = true := Bool.eq_false_iff.mp same
    rw [push_of_differs same, pointed_append, Pointed.push, if_neg present]

/-- A call does to the list what it does to the history. -/
theorem pointed_perform [BEq α] (history : History α) (call : HistoryCall α) :
    history.pointed.perform history.limit call =
      ((history.perform call).1, (history.perform call).2.pointed) := by
  cases call with
  | push snapshot =>
    simp only [Pointed.perform, perform, pointed_push, push?]
    cases same : history.current == snapshot <;> simp [pointed, same]
  | undo =>
    simp only [Pointed.perform, perform, pointed_undo]
    rw [← pointed_undo]
    rfl
  | redo =>
    simp only [Pointed.perform, perform, pointed_redo]
    rw [← pointed_redo]
    rfl
  | reset snapshot => rfl

theorem pointed_run [BEq α] (history : History α) (calls : List (HistoryCall α)) :
    history.pointed.run history.limit calls =
      ((history.run calls).1, (history.run calls).2.pointed) := by
  induction calls generalizing history with
  | nil => rfl
  | cons call rest ih =>
    have next := ih (history.perform call).2
    rw [perform_limit] at next
    simp only [Pointed.run, run, pointed_perform, next]

theorem canUndo_iff (history : History α) : history.canUndo = true ↔ history.pointed.past ≠ [] := by
  obtain ⟨past, future, split, length⟩ := history.exists_split
  rw [pointed_of_split split length, canUndo, decide_eq_true_iff, ← length, List.length_pos_iff,
    ne_eq, ne_eq, List.reverse_eq_nil_iff]

theorem canRedo_iff (history : History α) :
    history.canRedo = true ↔ history.pointed.future ≠ [] := by
  rw [canRedo, decide_eq_true_iff, pointed, ne_eq, List.drop_eq_nil_iff, Nat.not_le]

end History

/-! ## A line without its proofs -/

/-- What a history consists of. Reading outside of the line and counting below zero give nothing. -/
structure Bare (α : Type) where
  snapshots : List α
  cursor : Nat
  limit : Nat

namespace Bare

/-- A difference that is not below zero. -/
def minus? (first second : Nat) : Option Nat :=
  if second ≤ first then some (first - second) else none

theorem minus?_eq {first second : Nat} (below : second ≤ first) :
    minus? first second = some (first - second) := if_pos below

/-- Take the oldest snapshots away that are more than the limit. -/
def evict? (bare : Bare α) : Option (Bare α) :=
  if bare.limit < bare.snapshots.length then do
    let overflow ← minus? bare.snapshots.length bare.limit
    let cursor ← minus? bare.cursor overflow
    return { bare with snapshots := bare.snapshots.drop overflow, cursor }
  else some bare

def push? [BEq α] (bare : Bare α) (snapshot : α) : Option (Bool × Bare α) := do
  let current ← bare.snapshots[bare.cursor]?
  if current == snapshot then
    return (false, bare)
  else
    let snapshots := bare.snapshots.take (bare.cursor + 1) ++ [snapshot]
    let next ← evict? { bare with snapshots, cursor := bare.cursor + 1 }
    return (true, next)

/-- Go to a place of the line. -/
def goTo? (bare : Bare α) (cursor : Nat) : Option (α × Bare α) :=
  bare.snapshots[cursor]?.map fun snapshot => (snapshot, { bare with cursor })

def undo? (bare : Bare α) : Option (α × Bare α) :=
  if 0 < bare.cursor then (minus? bare.cursor 1).bind bare.goTo? else bare.goTo? bare.cursor

def redo? (bare : Bare α) : Option (α × Bare α) :=
  if bare.cursor + 1 < bare.snapshots.length then bare.goTo? (bare.cursor + 1)
  else bare.goTo? bare.cursor

variable [BEq α]

def perform? (bare : Bare α) : HistoryCall α → Option (HistoryAnswer α × Bare α)
  | .push snapshot => (bare.push? snapshot).map fun (recorded, next) => (.pushed recorded, next)
  | .undo => bare.undo?.map fun (snapshot, next) => (.recalled snapshot, next)
  | .redo => bare.redo?.map fun (snapshot, next) => (.recalled snapshot, next)
  | .reset snapshot => some (.started, { bare with snapshots := [snapshot], cursor := 0 })

def run? (bare : Bare α) : List (HistoryCall α) → Option (List (HistoryAnswer α) × Bare α)
  | [] => some ([], bare)
  | call :: rest => do
    let (answer, next) ← bare.perform? call
    let (answers, last) ← next.run? rest
    return (answer :: answers, last)

end Bare

namespace History

def bare (history : History α) : Bare α := ⟨history.snapshots, history.cursor, history.limit⟩

theorem bare_goTo? (history : History α) :
    history.bare.goTo? history.cursor = some (history.current, history.bare) := by
  rw [Bare.goTo?, bare, history.snapshots_getElem?_cursor, Option.map_some]

theorem bare_undo? (history : History α) :
    history.bare.undo? = some (history.undo.current, history.undo.bare) := by
  rw [Bare.undo?]
  split
  · rename_i later
    rw [Bare.minus?_eq later, Option.bind_some]
    exact history.undo.bare_goTo?
  · rename_i oldest
    have kept : history.undo = history := undo_of_oldest (by simpa [canUndo, bare] using oldest)
    rw [kept]
    exact history.bare_goTo?

theorem bare_redo? (history : History α) :
    history.bare.redo? = some (history.redo.current, history.redo.bare) := by
  have moved : history.bare.goTo? history.redo.cursor =
      history.redo.bare.goTo? history.redo.cursor := by
    simp only [Bare.goTo?, bare, redo_snapshots, redo_limit]
  rw [← history.redo.bare_goTo?, ← moved, redo_cursor, Bare.redo?]
  exact (apply_ite history.bare.goTo? ..).symm

/-- As the limit is at least one, no more goes than came before the new snapshot. -/
theorem bare_append (history : History α) (snapshot : α) :
    Bare.evict? ⟨history.line ++ [snapshot], history.cursor + 1, history.limit⟩ =
      some (history.append snapshot).bare := by
  have positive := history.limit_pos
  have length : (history.line ++ [snapshot]).length = history.cursor + 2 := by simp
  unfold Bare.evict?
  split
  · rename_i exceeds
    have below : (history.line ++ [snapshot]).length - history.limit ≤ history.cursor + 1 := by
      omega
    simp only [Bare.minus?_eq (Nat.le_of_lt exceeds), Option.bind_eq_bind, Option.bind_some,
      Bare.minus?_eq below]
    rfl
  · rename_i fits
    have none : (history.line ++ [snapshot]).length - history.limit = 0 :=
      Nat.sub_eq_zero_of_le (Nat.not_lt.mp fits)
    rw [bare, snapshots_append, cursor_append, none, List.drop_zero, append_limit, Nat.sub_zero]

theorem bare_push? [BEq α] (history : History α) (snapshot : α) :
    history.bare.push? snapshot =
      some ((history.push? snapshot).isSome, (history.push snapshot).bare) := by
  have current : history.bare.snapshots[history.bare.cursor]? = some history.current :=
    history.snapshots_getElem?_cursor
  have appended : Bare.evict? { history.bare with
      snapshots := history.bare.snapshots.take (history.bare.cursor + 1) ++ [snapshot]
      cursor := history.bare.cursor + 1 } = some (history.append snapshot).bare :=
    history.bare_append snapshot
  simp only [Bare.push?, current, Option.bind_eq_bind, Option.bind_some, appended]
  cases same : history.current == snapshot <;> simp [push, push?, same]

/-- No call reads outside of the line or counts below zero. -/
theorem bare_perform? [BEq α] (history : History α) (call : HistoryCall α) :
    history.bare.perform? call =
      some ((history.perform call).1, (history.perform call).2.bare) := by
  cases call with
  | push snapshot => rw [Bare.perform?, bare_push?, Option.map_some, perform]
  | undo => rw [Bare.perform?, bare_undo?, Option.map_some, perform]
  | redo => rw [Bare.perform?, bare_redo?, Option.map_some, perform]
  | reset snapshot => rfl

theorem bare_run? [BEq α] (history : History α) (calls : List (HistoryCall α)) :
    history.bare.run? calls = some ((history.run calls).1, (history.run calls).2.bare) := by
  induction calls generalizing history with
  | nil => rfl
  | cons call rest ih =>
    simp only [Bare.run?, bare_perform?, ih, Option.bind_eq_bind, Option.bind_some]
    rfl

/-- Whatever is asked of a history, it answers as the undo list does and stands for what becomes of
that, and it can be undone or redone if there is a past or a future. It never holds more snapshots
than it may, and it is what a line without proofs comes to, of which no step fails. -/
theorem run_asPointed [BEq α] (initial : α) (limit : Nat) (calls : List (HistoryCall α)) :
    let (answers, history) := (start initial limit).run calls
    (Pointed.start initial).run (max limit 1) calls = (answers, history.pointed) ∧
      (history.canUndo = true ↔ history.pointed.past ≠ []) ∧
      (history.canRedo = true ↔ history.pointed.future ≠ []) ∧
      history.cursor < history.snapshots.length ∧
      history.snapshots.length ≤ max limit 1 ∧
      (Bare.mk [initial] 0 (max limit 1)).run? calls = some (answers, history.bare) := by
  have fits : (start initial limit).Fits := Nat.le_max_right limit 1
  obtain ⟨bounded, same⟩ := run_fits fits calls
  rw [Fits, same] at bounded
  exact ⟨(start initial limit).pointed_run calls, canUndo_iff _, canRedo_iff _,
    History.cursor_lt _, bounded, (start initial limit).bare_run? calls⟩

/-- Of two snapshots that may be kept, the older goes when a third one comes. -/
example : ((start 0 2).run [.push 1, .undo, .push 2, .push 2, .push 3, .undo]).2.pointed =
    ⟨[], 2, [3]⟩ := by decide

end History

end SignalGraph
