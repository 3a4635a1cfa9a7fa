import SignalGraph.Database.Plan.Merge
import SignalGraph.Database.Resolve

/-! The plan of a query. -/

set_option autoImplicit false

namespace SignalGraph.Database.Plan

abbrev Planner := Except StatementFault

/-- The places of some sources that are read already. -/
def covers (sources : List Source) (place : Nat) : Bool :=
  sources.any fun source => source.place ≤ place && place < source.place + source.width

def arrange (level : Nat) (sources : List Source) : List Source :=
  let waits (later : List Source) (source : Source) : Bool :=
    match source.content with
    | .call _ arguments => arguments.any fun argument =>
      (argument.placesAt level).any (covers later)
    | _ => false
  let pick (state : List Source × List Source) : List Source × List Source :=
    let (done, left) := state
    match left.find? fun source => !waits left source with
    | some source =>
      (done ++ [source], left.filter fun other => other.place ≠ source.place)
    | none => (done ++ left, [])
  ((List.range sources.length).foldl (fun state _ => pick state) ([], sources)).1

mutual

def expression (setting : Setting) (level : Nat) (fuel : Nat) (target : Expression) :
    Planner Expression :=
  match fuel with
  | 0 => throw .constructorLimit
  | fuel + 1 => do
    match target with
    | .scalar inner => return .scalar (← query setting level fuel inner)
    | .isThere inner => return .isThere (← query setting level fuel inner)
    | .amongRows operand inner =>
      return .amongRows (← expression setting level fuel operand) (← query setting level fuel inner)
    | target => target.mapPartsM (expression setting level fuel)
termination_by structural fuel

def query (setting : Setting) (level : Nat) (fuel : Nat) (target : Query) : Planner Query :=
  match fuel with
  | 0 => throw .constructorLimit
  | fuel + 1 => do
    let whole := Whole.ofQuery level target
    let whole := merge level (isComplex whole.first.core) false false fuel 0 whole
    let (first, order) := numberTotals level whole.first.core whole.order
    let core ← draft setting level fuel { whole.first with core := first }
    let rest ← whole.rest.mapM fun (operator, part) => do
      let (core, _) := numberTotals level part.core []
      return (operator, ← draft setting level fuel { part with core })
    let own := expression setting (level + 1) fuel
    return { core, rest
             order := ← order.mapM (OrderTerm.mapM own)
             limit := ← whole.limit.mapM own, offset := ← whole.offset.mapM own }
termination_by structural fuel

def draft (setting : Setting) (level : Nat) (fuel : Nat) (target : Draft) : Planner Core :=
  match fuel with
  | 0 => throw .constructorLimit
  | fuel + 1 => do
    let core := target.core
    let sources := arrange level core.sources
    let isFixed (condition : Condition) : Bool :=
      condition.isFree && (condition.value.placesAt level).isEmpty && !condition.value.hasQuery
    let (fixed, moving) := target.conditions.partition isFixed
    let place (condition : Condition) : Nat :=
      match condition.join with
      | some own => if condition.isOuter then own else 0
      | none => 0
    let needs (condition : Condition) (index : Nat) : Bool :=
      let done := sources.take (index + 1)
      (condition.value.placesAt level).all (covers done) &&
        (!condition.isOuter || done.any fun source => source.place = place condition) &&
        (condition.join.isSome || !((sources.drop (index + 1)).any keepsOwn))
    let indexOf (condition : Condition) : Nat :=
      ((List.range sources.length).find? (needs condition)).getD (sources.length - 1)
    let own := expression setting (level + 1) fuel
    let planned ← sources.zipIdx.mapM fun (source, index) => do
      let here := moving.filter fun condition => indexOf condition = index
      let (checks, afterwards) := here.partition fun condition =>
        if isOuterJoin source then condition.isOuter else true
      let content ← match source.content with
        | .query inner => do pure (SourceContent.query (← query setting level fuel inner))
        | .recursion recursion => do
          let repeated ← recursion.repeated.mapM fun core =>
            draft setting level fuel (.ofCore level core)
          pure (.recursion { recursion with
            start := ← query setting level fuel recursion.start, repeated
            order := ← recursion.order.mapM (OrderTerm.mapM own)
            limit := ← recursion.limit.mapM own, offset := ← recursion.offset.mapM own })
        | content => pure content
      return { source with
        content, checks := checks.map Condition.value, streamed := index = 0
        presence := source.presence <|> (if keepsOwn source then some (core.width + core.windows.length + index) else none)
        afterwards := afterwards.map Condition.value }
    let core := { core with sources := planned, fixed := fixed.map Condition.value }
    core.mapM own false Expression.depthLimit
termination_by structural fuel

end

end SignalGraph.Database.Plan

namespace SignalGraph.Database.Scope

def setting (scope : Scope) : Plan.Setting :=
  { catalog := scope.catalog, inTrigger := scope.levels.any Level.isTrigger }

/-- An expression with its names resolved and its queries planned. -/
def prepare (scope : Scope) (target : Expression) : Except StatementFault Expression := do
  Plan.expression scope.setting scope.depth Expression.depthLimit (← scope.resolve target)

/-- A query with its names resolved, and planned. -/
def prepareQuery (scope : Scope) (target : Query) : Except StatementFault Resolved := do
  let (query, columns) ← scope.resolveQuery target
  return (← Plan.query scope.setting scope.depth Expression.depthLimit query, columns)

end SignalGraph.Database.Scope
