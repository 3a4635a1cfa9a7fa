/-! A bounded line of snapshots with a cursor on the current one.

What is pushed comes after the current snapshot and takes the place of all later ones; when
the line grows past its limit, the oldest snapshots go.
-/

set_option autoImplicit false

namespace SignalGraph

structure History (α : Type) where
  snapshots : List α
  cursor : Nat
  limit : Nat
  cursor_lt : cursor < snapshots.length
  limit_pos : 0 < limit

namespace History

variable {α : Type}

/-- A history of one snapshot. A limit of none counts as a limit of one. -/
def start (initial : α) (limit : Nat) : History α :=
  ⟨[initial], 0, max limit 1, Nat.one_pos, Nat.le_max_right _ _⟩

/-- The limit where none is given. -/
def defaultLimit : Nat := 50

def current (history : History α) : α := history.snapshots.get ⟨history.cursor, history.cursor_lt⟩

/-- The line with a snapshot after the current one, cut down to the limit. -/
def append (history : History α) (snapshot : α) : History α :=
  let line := history.snapshots.take (history.cursor + 1) ++ [snapshot]
  let overflow := line.length - history.limit
  { history with
    snapshots := line.drop overflow
    cursor := history.cursor + 1 - overflow
    cursor_lt := by
      have inside := history.cursor_lt
      have positive := history.limit_pos
      simp only [List.length_drop, line, overflow, List.length_append, List.length_take,
        List.length_cons, List.length_nil]
      omega }

/-- Record a snapshot, unless it equals the current one. -/
def push? [BEq α] (history : History α) (snapshot : α) : Option (History α) :=
  if history.current == snapshot then none else some (history.append snapshot)

def push [BEq α] (history : History α) (snapshot : α) : History α :=
  (history.push? snapshot).getD history

def canUndo (history : History α) : Bool := 0 < history.cursor

def canRedo (history : History α) : Bool := history.cursor + 1 < history.snapshots.length

/-- Step back, but not past the oldest snapshot. -/
def undo (history : History α) : History α :=
  { history with
    cursor := history.cursor - 1
    cursor_lt := Nat.lt_of_le_of_lt (Nat.sub_le _ _) history.cursor_lt }

/-- Step forward, but not past the newest snapshot. -/
def redo (history : History α) : History α :=
  if inside : history.cursor + 1 < history.snapshots.length then
    { history with cursor := history.cursor + 1, cursor_lt := inside }
  else history

/-- Forget everything and start over from a snapshot. -/
def reset (history : History α) (snapshot : α) : History α :=
  { history with snapshots := [snapshot], cursor := 0, cursor_lt := Nat.one_pos }

theorem snapshots_getElem?_cursor (history : History α) :
    history.snapshots[history.cursor]? = some history.current :=
  List.getElem?_eq_getElem history.cursor_lt

theorem current_eq_iff (history : History α) (snapshot : α) :
    history.current = snapshot ↔ history.snapshots[history.cursor]? = some snapshot := by
  rw [snapshots_getElem?_cursor, Option.some.injEq]

/-- The snapshot just appended is the current one, whatever the limit cuts off. -/
theorem current_append (history : History α) (snapshot : α) :
    (history.append snapshot).current = snapshot := by
  have inside := history.cursor_lt
  have positive := history.limit_pos
  rw [current_eq_iff]
  simp only [append, List.getElem?_drop, List.length_append, List.length_take, List.length_cons,
    List.length_nil]
  rw [List.getElem?_append_right (by rw [List.length_take]; omega)]
  rw [List.length_take, List.getElem?_eq_some_iff]
  exact ⟨by simp only [List.length_cons, List.length_nil]; omega, by simp⟩

/-- Nothing comes after the snapshot just appended. -/
theorem canRedo_append (history : History α) (snapshot : α) :
    (history.append snapshot).canRedo = false := by
  have inside := history.cursor_lt
  have positive := history.limit_pos
  simp only [canRedo, append, List.length_drop, List.length_append, List.length_take,
    List.length_cons, List.length_nil, decide_eq_false_iff_not]
  omega

theorem redo_undo (history : History α) (h : history.canUndo = true) :
    history.undo.redo = history := by
  have inside := history.cursor_lt
  have positive : 0 < history.cursor := of_decide_eq_true h
  have back : history.cursor - 1 + 1 = history.cursor := Nat.sub_add_cancel positive
  simp only [redo, undo, back, inside, dite_true]

theorem undo_redo (history : History α) (h : history.canRedo = true) :
    history.redo.undo = history := by
  have inside : history.cursor + 1 < history.snapshots.length := of_decide_eq_true h
  simp only [redo, inside, dite_true, undo, Nat.add_sub_cancel]

end History

end SignalGraph
