import SignalGraph.Json.Record

/-! Watching a job from outside: its status is fetched again and again until it is terminal.

A failed fetch tells nothing. Of equal statuses in a row only the first is published.
-/

set_option autoImplicit false

namespace SignalGraph

inductive JobStatus where
  | pending
  | running (progress : Option Binary64)
  | completed
  | failed (message : String)
  deriving BEq

namespace JobStatus

def isTerminal : JobStatus → Bool
  | completed | failed _ => true
  | pending | running _ => false

def toTree : JobStatus → Tree
  | pending => .object [("status", .string "pending")]
  | running progress =>
    .object [("status", .string "running"), ("progress", Tree.nullable .float progress)]
  | completed => .object [("status", .string "completed")]
  | failed message => .object [("status", .string "failed"), ("message", .string message)]

def ofTree? (tree : Tree) : Option JobStatus := do
  let (word, record) ← tree.tagged? "status"
  match word with
  | "pending" => if record.isFieldless then some pending else none
  | "running" =>
    let [progress] ← record.slots? [["progress"]] | none
    return running (← progress.optional Tree.number?)
  | "completed" => if record.isFieldless then some completed else none
  | "failed" =>
    let [message] ← record.slots? [["message"]] | none
    return failed (← message.orDefault Tree.text? "")
  | _ => none

end JobStatus

/-- What a watch knows: the status published last, and whether the job has ended. -/
structure JobWatch where
  last : Option JobStatus := none
  ended : Bool := false

/-- One fetch answers a status, or fails. -/
abbrev Fetched (α : Type) := Except String α

namespace JobWatch

/-- The watch after a fetch, and the status to publish if there is one. -/
def tick (watch : JobWatch) : Fetched JobStatus → JobWatch × Option JobStatus
  | .error _ => (watch, none)
  | .ok status =>
    let ended := status.isTerminal
    if watch.last == some status then ({ watch with ended }, none)
    else (⟨some status, ended⟩, some status)

/-- What following a list of answers came to. -/
structure Followed where
  published : List JobStatus
  ended : Bool
  /-- The answers that nobody fetched. -/
  left : List (Fetched JobStatus)

/-- Fetch answer after answer until the job ends or no answer is left. -/
def follow (watch : JobWatch) : List (Fetched JobStatus) → Followed
  | [] => ⟨[], watch.ended, []⟩
  | answer :: rest =>
    if watch.ended then ⟨[], true, answer :: rest⟩
    else
      let (next, status) := watch.tick answer
      let followed := follow next rest
      { followed with published := status.toList ++ followed.published }

end JobWatch

/-- The name of the task that watches a job. -/
def jobTaskName (job : String) : String := s!"job {job}"

end SignalGraph
