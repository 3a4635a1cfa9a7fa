import SignalGraph.Database.Rebuild
import SignalGraph.Database.Scope

/-! Queries while they are being planned: the conditions of a part stand in one list, each with the
join that it is written for, and sources that are joined by themselves have become queries.
-/

set_option autoImplicit false

namespace SignalGraph.Database.Plan

/-- A condition, and the place of the source whose join it belongs to. -/
structure Condition where
  value : Expression
  join : Option Nat := none
  /-- The join keeps rows that do not meet the condition. -/
  isOuter : Bool := false

/-- One part of a query. -/
structure Draft where
  core : Core
  conditions : List Condition := []

/-- A query: a part, and others behind it. -/
structure Whole where
  first : Draft
  rest : List (Compound × Draft) := []
  order : List OrderTerm := []
  limit : Option Expression := none
  offset : Option Expression := none

namespace Condition

/-- The conditions that all have to hold for one to hold. -/
def split (condition : Condition) : List Condition :=
  condition.value.conjuncts.map fun value => { condition with value }

def map (change : Expression → Expression) (condition : Condition) : Condition :=
  { condition with value := change condition.value }

/-- The condition is written for no join. -/
def isFree (condition : Condition) : Bool := condition.join.isNone

end Condition

/-- Rows without a partner come from both sides, or from one. -/
def isOuterJoin (source : Source) : Bool := source.join ≠ .inner

/-- Rows of the source come even if nothing before it goes with them. -/
def keepsOwn (source : Source) : Bool := source.join = .right || source.join = .full

/-- Rows before the source come even if none of its own goes with them. -/
def keepsBefore (source : Source) : Bool := source.join = .left || source.join = .full

/-- The source stands before one whose own rows all come. -/
def isLeftOfKept (sources : List Source) (index : Nat) : Bool :=
  (sources.drop (index + 1)).any keepsOwn

namespace Draft

/-- Sources that are joined by themselves, as a query with all their values. How these lean and are
compared is told where they are asked for. -/
def nested (level : Nat) : Nat → Source → Source
  | 0, source => source
  | fuel + 1, source =>
    match source.content with
    | .joined sources =>
      let start := source.place
      let move (expression : Expression) : Expression :=
        expression.replacePlaces level fun place leaning collation =>
          some (.slot level (place - start) leaning collation)
      let moved := sources.map fun inner =>
        let inner := nested level fuel inner
        let inner := inner.mapOwn move
        { inner with place := inner.place - start }
      let columns := (List.range source.width).map fun place =>
        ResultColumn.one (.slot level place none none) none ""
      { source with content := .query { core := { columns, sources := moved, width := source.width } } }
    | _ => source

def ofCore (level : Nat) (core : Core) : Draft :=
  let sources := core.sources.map (nested level Expression.depthLimit)
  let free := (core.filter.toList.map fun value => ({ value } : Condition)).flatMap Condition.split
  let joined := sources.flatMap fun source =>
    (source.condition.toList.map fun value =>
      ({ value, join := some source.place, isOuter := isOuterJoin source } : Condition)).flatMap
        Condition.split
  let bare := sources.zipIdx.map fun (source, rank) =>
    { source with condition := none, rank }
  { core := { core with filter := none, sources := bare }, conditions := free ++ joined }

/-- A part with other expressions of its own. -/
def map (change : Expression → Expression) (draft : Draft) : Draft :=
  { core := draft.core.mapOwn change, conditions := draft.conditions.map (Condition.map change) }

/-- The places of its own row that a part looks at. -/
def placesUsed (level : Nat) (draft : Draft) (order : List OrderTerm) : List Nat :=
  let shallow (source : Source) : Source :=
    match source.content with
    | .query _ | .recursion _ => { source with content := .current "" }
    | _ => source
  let own := { draft.core with sources := draft.core.sources.map shallow }
  (own.parts ++ draft.conditions.map Condition.value ++ order.map OrderTerm.value).flatMap
    (Expression.placesAt level)

end Draft

/-- The functions over the groups of a level, each with the number that it has in the part. -/
def numbered (level : Nat) (fuel : Nat) (target : Expression) : StateM (List Call) Expression :=
  match fuel with
  | 0 => return target
  | fuel + 1 =>
    match target with
    | .total own call =>
      if own = level then do
        let found ← get
        match found.find? fun other => (Expression.total own other).isSame target with
        | some other => return .total own { call with number := other.number }
        | none =>
          let call := { call with number := found.length }
          set (found ++ [call])
          return .total own call
      else target.mapPartsM (numbered level fuel)
    | target => target.mapPartsM (numbered level fuel)
termination_by structural fuel

/-- A part and an order with the functions over groups numbered. -/
def numberTotals (level : Nat) (core : Core) (order : List OrderTerm) : Core × List OrderTerm :=
  let change := numbered level Expression.depthLimit
  let work : StateM (List Call) (Core × List OrderTerm) := do
    let columns ← core.columns.mapM (ResultColumn.mapM change)
    let order ← order.mapM (OrderTerm.mapM change)
    let having ← core.having.mapM change
    let windows ← core.windows.mapM (Call.mapM change)
    return ({ core with columns, having, windows }, order)
  let ((core, order), totals) := work.run []
  ({ core with totals }, order)

namespace Whole

def ofQuery (level : Nat) (query : Query) : Whole :=
  { first := .ofCore level query.core
    rest := query.rest.map fun (operator, core) => (operator, .ofCore level core)
    order := query.order, limit := query.limit, offset := query.offset }

def drafts (whole : Whole) : List Draft := whole.first :: whole.rest.map fun entry => entry.2

end Whole

end SignalGraph.Database.Plan
