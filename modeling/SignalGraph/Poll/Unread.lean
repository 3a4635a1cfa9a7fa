import SignalGraph.Poll.Job

/-! The number of unread notifications, fetched again and again for one listener.

The listener is told when a fetched count differs from the one held; a failed fetch changes
nothing. The watch ends at the first fetch after the listener has gone.
-/

set_option autoImplicit false

namespace SignalGraph

structure UnreadWatch where
  count : Nat := 0
  ended : Bool := false

namespace UnreadWatch

/-- The watch after a fetch, and whether the listener is told of a change. -/
def tick (watch : UnreadWatch) (listening : Bool) : Fetched Nat → UnreadWatch × Bool
  | .error _ => ({ watch with ended := !listening }, false)
  | .ok count => (⟨count, !listening⟩, count != watch.count)

/-- The changes told and the counts held after each of a list of fetches with a listener. -/
def follow (watch : UnreadWatch) : List (Fetched Nat) → List (Bool × Nat) × UnreadWatch
  | [] => ([], watch)
  | answer :: rest =>
    let (next, told) := watch.tick true answer
    let (seen, final) := follow next rest
    ((told, next.count) :: seen, final)

end UnreadWatch

/-- The name of the task that watches the count. -/
def unreadTaskName : String := "unread count"

end SignalGraph
