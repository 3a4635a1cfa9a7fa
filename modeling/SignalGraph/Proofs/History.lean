import SignalGraph.History
import Mathlib.Logic.Function.Iterate

/-! Where the snapshots of a history come from, and how undo and redo go along them.

No operation makes a snapshot up, and the current one is among them. What was appended one after the
other is the end of the line up to the current snapshot, as far as the limit allows. So undoing goes
back over it in turn, and redoing takes back the undoing.
-/

set_option autoImplicit false

namespace SignalGraph.History

variable {α : Type} {history : History α} {snapshot given : α}

theorem current_mem (history : History α) : history.current ∈ history.snapshots :=
  List.get_mem history.snapshots _

theorem mem_append (member : snapshot ∈ (history.append given).snapshots) :
    snapshot ∈ history.snapshots ∨ snapshot = given := by
  have inLine := List.drop_subset _ _ member
  rcases List.mem_append.mp inLine with old | last
  · exact Or.inl (List.take_subset _ _ old)
  · exact Or.inr (List.mem_singleton.mp last)

theorem mem_push [BEq α] (member : snapshot ∈ (history.push given).snapshots) :
    snapshot ∈ history.snapshots ∨ snapshot = given := by
  unfold push push? at member
  split at member
  · exact Or.inl member
  · exact mem_append member

@[simp]
theorem undo_snapshots (history : History α) : history.undo.snapshots = history.snapshots := rfl

@[simp]
theorem undo_cursor (history : History α) : history.undo.cursor = history.cursor - 1 := rfl

@[simp]
theorem redo_snapshots (history : History α) : history.redo.snapshots = history.snapshots := by
  unfold redo
  split <;> rfl

/-! ## Recording -/

section Push

variable [BEq α]

theorem push_of_same (same : (history.current == given) = true) :
    history.push given = history := by
  simp [push, push?, same]

theorem push_of_differs (differs : (history.current == given) = false) :
    history.push given = history.append given := by
  simp [push, push?, differs]

theorem push_cases (history : History α) (given : α) :
    (history.current == given) = true ∧ history.push given = history ∨
      history.push given = history.append given := by
  cases same : history.current == given with
  | true => exact .inl ⟨rfl, push_of_same same⟩
  | false => exact .inr (push_of_differs same)

/-- What was pushed is current, or equal to what is. -/
theorem current_push (history : History α) (given : α) :
    (history.push given).current = given ∨ ((history.push given).current == given) = true := by
  rcases history.push_cases given with ⟨same, kept⟩ | appended
  · exact .inr (kept.symm ▸ same)
  · exact .inl (appended.symm ▸ history.current_append given)

@[simp]
theorem push_limit (history : History α) (given : α) : (history.push given).limit = history.limit := by
  rcases history.push_cases given with ⟨-, kept⟩ | appended
  · rw [kept]
  · rw [appended]
    rfl

end Push

@[simp]
theorem redo_limit (history : History α) : history.redo.limit = history.limit := by
  unfold redo
  split <;> rfl

/-- The snapshots up to the current one. -/
def line (history : History α) : List α := history.snapshots.take (history.cursor + 1)

@[simp]
theorem length_line (history : History α) : history.line.length = history.cursor + 1 := by
  have inside := history.cursor_lt
  rw [line, List.length_take]
  omega

theorem snapshots_append (history : History α) (given : α) :
    (history.append given).snapshots =
      (history.line ++ [given]).drop ((history.line ++ [given]).length - history.limit) := rfl

theorem cursor_append (history : History α) (given : α) :
    (history.append given).cursor =
      history.cursor + 1 - ((history.line ++ [given]).length - history.limit) := rfl

@[simp]
theorem append_limit (history : History α) (given : α) :
    (history.append given).limit = history.limit := rfl

/-- The snapshot just appended is the last one, so the line is all there is. -/
theorem line_append (history : History α) (given : α) :
    (history.append given).line =
      (history.line ++ [given]).drop ((history.line ++ [given]).length - history.limit) := by
  have positive := history.limit_pos
  rw [line, snapshots_append, cursor_append]
  refine List.take_of_length_le ?_
  simp only [List.length_drop, List.length_append, length_line, List.length_cons, List.length_nil]
  omega

/-- The history holds no more snapshots than it may. -/
def Fits (history : History α) : Prop := history.snapshots.length ≤ history.limit

theorem fits_append (history : History α) (given : α) : (history.append given).Fits := by
  rw [Fits, snapshots_append, List.length_drop, append_limit]
  omega

theorem Fits.push [BEq α] (fits : history.Fits) (given : α) : (history.push given).Fits := by
  rcases history.push_cases given with ⟨-, kept⟩ | appended
  · rwa [kept]
  · exact appended ▸ history.fits_append given

/-- What the current snapshots end with is still there when one more is appended, if both fit. -/
theorem suffix_line_append {recent : List α} (suffix : recent <:+ history.line)
    (room : recent.length < history.limit) (given : α) :
    recent ++ [given] <:+ (history.append given).line := by
  rw [line_append]
  refine List.suffix_of_suffix_length_le ?_ (List.drop_suffix _ _) ?_
  · obtain ⟨older, split⟩ := suffix
    exact ⟨older, by rw [← List.append_assoc, split]⟩
  · have shorter := suffix.length_le
    simp only [List.length_append, List.length_drop, List.length_cons, List.length_nil]
    omega

theorem current_suffix_line (history : History α) : [history.current] <:+ history.line := by
  refine ⟨history.snapshots.take history.cursor, ?_⟩
  rw [line, List.take_add_one, history.snapshots_getElem?_cursor, Option.toList_some]

/-! ## Going back and forth -/

theorem undo_of_oldest (oldest : history.canUndo = false) : history.undo = history := by
  obtain ⟨snapshots, cursor, limit, inside, positive⟩ := history
  obtain rfl : cursor = 0 := by simpa [canUndo] using oldest
  rfl

theorem redo_of_newest (newest : history.canRedo = false) : history.redo = history := by
  have last : ¬history.cursor + 1 < history.snapshots.length := by simpa [canRedo] using newest
  simp [redo, last]

@[simp]
theorem undo_iterate_snapshots (history : History α) (steps : Nat) :
    (undo^[steps] history).snapshots = history.snapshots := by
  induction steps with
  | zero => rfl
  | succ steps ih => rw [Function.iterate_succ_apply', undo_snapshots, ih]

@[simp]
theorem undo_iterate_cursor (history : History α) (steps : Nat) :
    (undo^[steps] history).cursor = history.cursor - steps := by
  induction steps with
  | zero => rfl
  | succ steps ih =>
    rw [Function.iterate_succ_apply', undo_cursor, ih]
    rfl

/-- Undoing goes back over the end of the line, from its last snapshot to its first. -/
theorem current_undo_iterate {recent : List α} (suffix : recent <:+ history.line) {steps : Nat}
    (inside : steps < recent.length) :
    (undo^[steps] history).current = recent[recent.length - 1 - steps] := by
  obtain ⟨older, split⟩ := suffix
  have length : older.length + recent.length = history.cursor + 1 := by
    rw [← List.length_append, split, length_line]
  have place : history.cursor - steps = older.length + (recent.length - 1 - steps) := by omega
  have onLine : history.snapshots[history.cursor - steps]? = history.line[history.cursor - steps]? := by
    rw [line, List.getElem?_take_of_lt (by omega)]
  rw [current_eq_iff, undo_iterate_snapshots, undo_iterate_cursor, onLine, ← split, place,
    List.getElem?_append_right (Nat.le_add_right _ _), Nat.add_sub_cancel_left,
    List.getElem?_eq_getElem]

/-- Redoing takes back as much of the undoing, as long as that did not stop at the oldest snapshot. -/
theorem redo_iterate_undo_iterate (history : History α) {undone redone : Nat}
    (back : undone ≤ history.cursor) (forth : redone ≤ undone) :
    redo^[redone] (undo^[undone] history) = undo^[undone - redone] history := by
  induction redone with
  | zero => rfl
  | succ redone ih =>
    have next : undone - redone = undone - (redone + 1) + 1 := by omega
    rw [Function.iterate_succ_apply', ih (Nat.le_of_succ_le forth), next,
      Function.iterate_succ_apply', redo_undo]
    rw [canUndo, undo_iterate_cursor, decide_eq_true_iff]
    omega

end SignalGraph.History
