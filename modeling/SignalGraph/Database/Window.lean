import SignalGraph.Database.Function.Total
import SignalGraph.Database.Rows

/-! Functions over the rows around each row.

The rows of a part stand in order, and rows with the same keys are peers. A frame is a span of the
part for each row. Its ends never go back from one row to the next, so that a sum is kept up by the
rows that come in and those that leave.
-/

set_option autoImplicit false

namespace SignalGraph.Database.Windowing

open JsonFunction (Argument)

/-- A row of a part. -/
structure Member where
  keys : List Datum
  arguments : List Argument
  /-- The function counts the row in. -/
  kept : Bool

/-- An end of a frame with its amount. -/
inductive Edge where
  | unbounded
  | current
  | before (amount : Datum)
  | after (amount : Datum)

/-- What a function does for each row of a part. -/
structure Task where
  function : String
  collation : Collation
  terms : Rows.Terms
  unit : FrameUnit
  start : Edge
  stop : Edge
  exclusion : FrameExclusion

/-- Some rows of a part that stand side by side. -/
structure Span where
  start : Nat
  stop : Nat

namespace Edge

/-- The amount is what frames of a kind can count by. -/
def check (unit : FrameUnit) (isStart : Bool) (edge : Edge) : Except StatementFault Edge := do
  let words := if isStart then "starting" else "ending"
  let kind := if unit = .range then "number" else "integer"
  let refuse : Except StatementFault Datum :=
    .error (.domain ("frame " ++ words ++ " offset must be a non-negative " ++ kind))
  let checked (amount : Datum) : Except StatementFault Datum :=
    match amount.leanTo .numeric, unit with
    | .integer n, _ => if n < 0 then refuse else .ok (.integer n)
    | .real x, .range => if x.less (.zero false) then refuse else .ok (.real x)
    | _, _ => refuse
  match edge with
  | before amount => return before (← checked amount)
  | after amount => return after (← checked amount)
  | edge => return edge

def count : Datum → Nat
  | .integer n => n.toNat
  | _ => 0

end Edge

namespace Task

/-- The spans of peers, one behind the other. -/
def peers (task : Task) (members : List Member) : List Span :=
  let groups := Rows.runs task.terms Member.keys members
  (groups.foldl (fun (done, start) group =>
    (done ++ [(⟨start, start + group.length⟩ : Span)], start + group.length)) ([], 0)).1

/-- The key that a frame begins or ends with, so far away from the key of a row. Only numbers can
be moved. -/
def moved (task : Task) (isBefore : Bool) (amount key : Datum) : Datum :=
  let down := (task.terms.head?.map fun entry => entry.1.down).getD false
  match key with
  | .integer _ | .real _ =>
    Datum.arithmetic (if isBefore = down then .add else .subtract) key amount
  | key => key

/-- How many rows come before a key, or before it and with it. -/
def countUpTo (task : Task) (members : List Member) (withKey : Bool) (key : Datum) : Nat :=
  (members.takeWhile fun member =>
    match Rows.compareKeys task.terms member.keys [key] with
    | .lt => true
    | .eq => withKey
    | .gt => false).length

/-- Where the frame of a row begins and ends. -/
def frame (task : Task) (members : List Member) (groups : List Span) (place : Nat) : Span :=
  let size := members.length
  let group := (groups.findIdx? fun span => place < span.stop).getD 0
  let own := groups.getD group ⟨place, place + 1⟩
  let key := ((members[place]?).bind fun member => member.keys.head?).getD .null
  let start := match task.start, task.unit with
    | .unbounded, _ => 0
    | .current, .rows => place
    | .current, _ => own.start
    | .before amount, .rows => place - Edge.count amount
    | .after amount, .rows => min size (place + Edge.count amount)
    | .before amount, .groups =>
      ((groups[group - Edge.count amount]?).map Span.start).getD 0
    | .after amount, .groups =>
      ((groups[group + Edge.count amount]?).map Span.start).getD size
    | .before amount, .range => task.countUpTo members false (task.moved true amount key)
    | .after amount, .range => task.countUpTo members false (task.moved false amount key)
  let stop := match task.stop, task.unit with
    | .unbounded, _ => size
    | .current, .rows => place + 1
    | .current, _ => own.stop
    | .before amount, .rows => place + 1 - Edge.count amount
    | .after amount, .rows => min size (place + 1 + Edge.count amount)
    | .before amount, .groups =>
      if Edge.count amount ≤ group then
        ((groups[group - Edge.count amount]?).map Span.stop).getD 0
      else 0
    | .after amount, .groups =>
      ((groups[group + Edge.count amount]?).map Span.stop).getD size
    | .before amount, .range => task.countUpTo members true (task.moved true amount key)
    | .after amount, .range => task.countUpTo members true (task.moved false amount key)
  ⟨start, max start stop⟩

/-- The rows of a frame that are not left out, with their places. -/
def within (task : Task) (members : List Member) (own span : Span) (place : Nat) : List Member :=
  let inside := ((members.zipIdx.drop span.start).take (span.stop - span.start)).filter
    fun (_, index) =>
      match task.exclusion with
      | .none => true
      | .current => index ≠ place
      | .group => index < own.start || own.stop ≤ index
      | .ties => index = place || index < own.start || own.stop ≤ index
  inside.map fun entry => entry.1

def first (member : Member) : Datum := (member.arguments.head?.map fun entry => entry.1).getD .null

def argument (place : Nat) (member : Member) : Option Datum :=
  (member.arguments[place]?).map fun entry => entry.1

/-- The number of a row in a frame that is asked for. -/
def ordinalOf (value : Datum) : Except StatementFault Nat :=
  match value.leanTo .numeric with
  | .integer n =>
    if 0 < n then .ok n.toNat
    else .error (.domain "second argument to nth_value must be a positive integer")
  | _ => .error (.domain "second argument to nth_value must be a positive integer")

/-- The number of the part that a row falls in, if rows are dealt to so many parts. -/
def dealt (parts size place : Nat) : Nat :=
  let each := size / parts
  if each = 0 then place + 1
  else
    let large := size - parts * each
    let small := large * (each + 1)
    if place < small then 1 + place / (each + 1) else 1 + large + (place - small) / each

def fraction (a b : Nat) : Datum := .real ((Binary64.ofNat a).divide (.ofNat b))

/-- The row so far behind a row, or before it. -/
def neighbour (members : List Member) (isAfter : Bool) (place : Nat) (member : Member) : Datum :=
  let amount := (argument 1 member).getD (.integer 1)
  let target := Datum.arithmetic (if isAfter then .add else .subtract) (.integer place) amount
  let found := match target.leanTo .numeric with
    | .integer n => if n < 0 then none else members[n.toNat]?
    | _ => none
  (found.map first).getD ((argument 2 member).getD .null)

/-- The value of a function for one row. -/
def valueAt (task : Task) (members : List Member) (groups : List Span) (place : Nat)
    (member : Member) : Except StatementFault Datum := do
  let size := members.length
  let group := (groups.findIdx? fun span => place < span.stop).getD 0
  let own := groups.getD group ⟨place, place + 1⟩
  let inside := task.within members own (task.frame members groups place) place
  match task.function with
  | "row_number" => return .integer (place + 1)
  | "rank" => return .integer (own.start + 1)
  | "dense_rank" => return .integer (group + 1)
  | "percent_rank" =>
    return if size ≤ 1 then .real (.zero false) else fraction own.start (size - 1)
  | "cume_dist" => return fraction own.stop size
  | "ntile" =>
    let parts := ((members.head?.map first).getD .null).toInt
    if parts ≤ 0 then throw (.domain "argument of ntile must be a positive integer")
    return .integer (dealt parts.toNat size place)
  | "lag" => return neighbour members false place member
  | "lead" => return neighbour members true place member
  | "first_value" => return (inside.head?.map first).getD .null
  | "last_value" => return (inside.getLast?.map first).getD .null
  | "nth_value" =>
    let number ← ordinalOf ((argument 1 member).getD .null)
    return ((inside[number - 1]?).map first).getD .null
  | function =>
    let kept := (inside.filter Member.kept).map Member.arguments
    return (← Total.value task.collation function kept).1

/-- Take rows into a sum, or out of it. -/
def shift (change : RunningSum → Datum → RunningSum) (members : List Member) (start stop : Nat)
    (sum : RunningSum) : RunningSum :=
  (((members.drop start).take (stop - start)).filter Member.kept).foldl
    (fun sum member => change sum (first member)) sum

/-- The sums over the frames, one after the other. -/
def sums (task : Task) (members : List Member) (groups : List Span) :
    Except StatementFault (List Datum) := do
  let add := shift RunningSum.add members
  let remove := shift RunningSum.remove members
  let (values, _) ← (List.range members.length).foldlM (fun (values, sum, before) place => do
    let next := task.frame members groups place
    let sum :=
      if task.unit = .range then remove before.start next.start (add before.stop next.stop sum)
      else
        let middle := min next.start before.stop
        remove middle next.start
          (add before.stop next.stop (remove before.start middle sum))
    return (values ++ [← sum.result task.function], sum, next))
    (([] : List Datum), ({} : RunningSum), (⟨0, 0⟩ : Span))
  return values

/-- The values of the function for the rows of a part. -/
def run (task : Task) (members : List Member) : Except StatementFault (List Datum) := do
  if members.isEmpty then return []
  else
    let start ← task.start.check task.unit true
    let stop ← task.stop.check task.unit false
    let task := { task with start, stop }
    let groups := task.peers members
    let moves := match start with
      | .unbounded => false
      | _ => true
    if moves && task.exclusion = .none && RunningSum.names.contains task.function then
      task.sums members groups
    else members.zipIdx.mapM fun (member, place) => task.valueAt members groups place member

end Task

end SignalGraph.Database.Windowing
