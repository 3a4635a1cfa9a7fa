import SignalGraph.Catalog.Category
import SignalGraph.Json.Record

/-! Handles: the places of a node where edges may end or start.

A node has some input handles and at most one output, which has no name. The layout follows
from the kind, or from the category for kinds without a layout of their own.
-/

set_option autoImplicit false

namespace SignalGraph

/-- An input handle. The one without a name is the anonymous input. -/
structure InputHandle where
  id : Option String
  /-- Several sources may feed the handle at once. -/
  multiple : Bool
  deriving DecidableEq

structure Handles where
  inputs : List InputHandle
  hasOutput : Bool
  deriving DecidableEq

namespace Handles

def input? (handles : Handles) (handle : Option String) : Option InputHandle :=
  handles.inputs.find? fun input => input.id = handle

def declaresInput (handles : Handles) (handle : Option String) : Bool :=
  (handles.input? handle).isSome

def sourceOnly : Handles := ⟨[], true⟩

def named (ids : List String) : Handles := ⟨ids.map fun id => ⟨some id, false⟩, true⟩

def anonymous (multiple : Bool) : Handles := ⟨[⟨none, multiple⟩], true⟩

def sink : Handles := ⟨[⟨none, false⟩], false⟩

def ofCategory : Category → Handles
  | .indicator => sourceOnly
  | .condition | .math => named ["a", "b"]
  | .logic | .risk => anonymous false
  | .output => sink

def ofKind (kind : String) (category : Category) : Handles :=
  match kind with
  | "value_when" => named ["a", "b"]
  | "pivot_low" | "pivot_high" => named ["input"]
  | "between" => named ["a", "b", "c"]
  | "abs" => named ["a"]
  | "and" | "or" => anonymous true
  | "not" => anonymous false
  | "stop_loss_calculator" | "take_profit_calculator" => named ["condition"]
  | "trailing_stop" | "risk_free_condition" => anonymous false
  | "signal_output" => sink
  | _ => ofCategory category

end Handles

namespace InputHandle

def toTree (handle : InputHandle) : Tree :=
  .object [("id", Tree.nullable .string handle.id), ("multiple", .bool handle.multiple)]

def ofTree? (tree : Tree) : Option InputHandle := do
  let [id, multiple] ← tree.slots? [["id"], ["multiple"]] | none
  return ⟨← id.nullable Tree.text?, ← multiple.orDefault Tree.bool? false⟩

end InputHandle

namespace Handles

def toTree (handles : Handles) : Tree :=
  .object [("inputs", .array (handles.inputs.map InputHandle.toTree)),
    ("hasOutput", .bool handles.hasOutput)]

def ofTree? (tree : Tree) : Option Handles := do
  let [inputs, hasOutput] ← tree.slots? [["inputs"], ["hasOutput"]] | none
  return ⟨← inputs.required (Tree.list? InputHandle.ofTree?), ← hasOutput.required Tree.bool?⟩

end Handles

end SignalGraph
