import SignalGraph.Database.Expression

/-! Expressions and queries made anew with other parts. Making a part may fail. -/

set_option autoImplicit false

namespace SignalGraph.Database

variable {m : Type → Type} [Monad m]

def OrderTerm.mapM (change : Expression → m Expression) (term : OrderTerm) : m OrderTerm := do
  return { term with value := ← change term.value }

def FrameBound.mapM (change : Expression → m Expression) : FrameBound → m FrameBound
  | .before amount => do return .before (← change amount)
  | .after amount => do return .after (← change amount)
  | bound => return bound

def WindowFrame.mapM (change : Expression → m Expression) (frame : WindowFrame) :
    m WindowFrame := do
  return { frame with start := ← frame.start.mapM change, stop := ← frame.stop.mapM change }

def Window.mapM (change : Expression → m Expression) (window : Window) : m Window := do
  return { window with
    partition := ← window.partition.mapM change
    order := ← window.order.mapM (OrderTerm.mapM change)
    frame := ← window.frame.mapM (WindowFrame.mapM change) }

def Call.mapM (change : Expression → m Expression) (call : Call) : m Call := do
  return { call with
    arguments := ← call.arguments.mapM change
    order := ← call.order.mapM (OrderTerm.mapM change)
    filter := ← call.filter.mapM change
    window := ← call.window.mapM (Window.mapM change) }

def ResultColumn.mapM (change : Expression → m Expression) : ResultColumn → m ResultColumn
  | .one value label written => do return .one (← change value) label written
  | column => return column

def Bound.mapM (change : Expression → m Expression) (bound : Bound) : m Bound := do
  return { bound with value := ← bound.value.mapM change }

mutual

/-- A query with other expressions right inside of it, those of its sources too. -/
def Query.mapM (change : Expression → m Expression) (fuel : Nat) (query : Query) : m Query :=
  match fuel with
  | 0 => return query
  | fuel + 1 => do
    return { query with
      core := ← Core.mapM change true fuel query.core
      rest := ← query.rest.mapM fun (operator, core) => do
        return (operator, ← Core.mapM change true fuel core)
      order := ← query.order.mapM (OrderTerm.mapM change)
      limit := ← query.limit.mapM change
      offset := ← query.offset.mapM change }
termination_by structural fuel

/-- A part of a query with other expressions. The queries that it reads are left alone unless they
are meant too. -/
def Core.mapM (change : Expression → m Expression) (isDeep : Bool) (fuel : Nat) (core : Core) :
    m Core :=
  match fuel with
  | 0 => return core
  | fuel + 1 => do
    return { core with
      columns := ← core.columns.mapM (ResultColumn.mapM change)
      sources := ← core.sources.mapM (Source.mapM change isDeep fuel)
      filter := ← core.filter.mapM change
      group := ← core.group.mapM change
      having := ← core.having.mapM change
      windows := ← core.windows.mapM (Call.mapM change)
      totals := ← core.totals.mapM (Call.mapM change)
      fixed := ← core.fixed.mapM change }
termination_by structural fuel

def Source.mapM (change : Expression → m Expression) (isDeep : Bool) (fuel : Nat)
    (source : Source) : m Source :=
  match fuel with
  | 0 => return source
  | fuel + 1 => do
    let content ← match source.content with
      | .query query => do
        pure (SourceContent.query (← if isDeep then Query.mapM change fuel query else pure query))
      | .call name arguments => do pure (.call name (← arguments.mapM change))
      | .joined sources => do
        pure (.joined (← sources.mapM (Source.mapM change isDeep fuel)))
      | .recursion recursion =>
        if isDeep then do
          pure (.recursion { recursion with
            start := ← Query.mapM change fuel recursion.start
            repeated := ← recursion.repeated.mapM (Core.mapM change true fuel)
            order := ← recursion.order.mapM (OrderTerm.mapM change)
            limit := ← recursion.limit.mapM change
            offset := ← recursion.offset.mapM change })
        else pure (.recursion recursion)
      | content => pure content
    return { source with
      content
      condition := ← source.condition.mapM change
      access := ← source.access.mapM (Access.mapM change fuel)
      early := ← source.early.mapM change
      checks := ← source.checks.mapM change
      afterwards := ← source.afterwards.mapM change }
termination_by structural fuel

def Access.mapM (change : Expression → m Expression) (fuel : Nat) (access : Access) : m Access :=
  match fuel with
  | 0 => return access
  | fuel + 1 => do
    let ofBound (bound : Option Bound) : m (Option Bound) := bound.mapM (Bound.mapM change)
    let ofProbe : Probe → m Probe
      | .equal value => do return .equal (← change value)
      | .same value => do return .same (← change value)
      | .isNull => return .isNull
      | .among choices => do return .among (← choices.mapM change)
      | .amongRows query place => do return .amongRows (← Query.mapM change fuel query) place
    match access with
    | .scan backward => return .scan backward
    | .numbers probe low high backward =>
      return .numbers (← probe.mapM ofProbe) (← ofBound low) (← ofBound high) backward
    | .index name probes low high backward covering nullsAcross =>
      return .index name (← probes.mapM ofProbe) (← ofBound low) (← ofBound high) backward covering
        nullsAcross
    | .sorted others conditions => return .sorted others (← conditions.mapM change)
    | .either parts =>
      return .either (← parts.mapM fun (access, early, checks) => do
        return (← Access.mapM change fuel access, ← early.mapM change, ← checks.mapM change))
termination_by structural fuel

end

namespace Expression

/-- An expression with other ones right inside of it. -/
def mapPartsM (change : Expression → m Expression) (expression : Expression) : m Expression := do
  let inQuery (query : Query) : m Query := query.mapM change depthLimit
  match expression with
  | unary operator operand => return .unary operator (← change operand)
  | binary operator left right => return .binary operator (← change left) (← change right)
  | counts operand asTrue => return .counts (← change operand) asTrue
  | between operand low high =>
    return .between (← change operand) (← change low) (← change high)
  | among operand choices => return .among (← change operand) (← choices.mapM change)
  | amongRows operand query => return .amongRows (← change operand) (← inQuery query)
  | choose base arms otherwise =>
    return .choose (← base.mapM change)
      (← arms.mapM fun arm => do return (← change arm.1, ← change arm.2)) (← change otherwise)
  | cast operand type => return .cast (← change operand) type
  | collate operand collation => return .collate (← change operand) collation
  | .call invocation => return .call (← invocation.mapM change)
  | .total level invocation => return .total level (← invocation.mapM change)
  | .scalar query => return .scalar (← inQuery query)
  | component place whole => return .component place (← change whole)
  | merged columns => return .merged (← columns.mapM change)
  | marked value mark => return .marked (← change value) (← change mark)
  | .isThere query => return .isThere (← inQuery query)
  | raise policy message => return .raise policy (← change message)
  | vector items => return .vector (← items.mapM change)
  | standing value leaning collation => return .standing (← change value) leaning collation
  | kept value leaning isMade => return .kept (← change value) leaning isMade
  | .literal _ | .numeral _ | .parameter _ | .name _ _ | .slot _ _ _ _ => return expression

/-- An expression where some parts stand for others, the outermost first. -/
def rebuild (change : Expression → Option Expression) : Nat → Expression → Expression
  | 0, expression => expression
  | fuel + 1, expression =>
    match change expression with
    | some other => other
    | none => Id.run (expression.mapPartsM fun part => pure (rebuild change fuel part))

/-- An expression with other expressions for the places of a level. -/
def replacePlaces (level : Nat) (change : Nat → Option Leaning → Option String → Option Expression)
    (expression : Expression) : Expression :=
  expression.rebuild (fun
    | .slot own place leaning collation =>
      if own = level then change place leaning collation else none
    | _ => none) depthLimit

/-- The places of a level that an expression looks at. -/
def placesAt (level : Nat) (expression : Expression) : List Nat :=
  expression.gather (fun
    | .slot other place _ _ => if other = level then some place else none
    | _ => none) depthLimit

end Expression

/-- A part of a query with other expressions of its own. -/
def Core.mapOwn (change : Expression → Expression) (core : Core) : Core :=
  Id.run (core.mapM (fun part => pure (change part)) false Expression.depthLimit)

def Source.mapOwn (change : Expression → Expression) (source : Source) : Source :=
  Id.run (source.mapM (fun part => pure (change part)) false Expression.depthLimit)

end SignalGraph.Database
