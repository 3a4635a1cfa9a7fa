import SignalGraph.Database.Scope

/-! What the names in a statement stand for.

Every name becomes the place of a column, every function is known and has the arguments it needs,
and views and named queries are put in the place of their names. A function over groups belongs to
the innermost query around it whose columns it looks at. A function over a window becomes a place
behind the columns of its query.
-/

set_option autoImplicit false

namespace SignalGraph.Database

/-- A resolved query with the columns of its rows. -/
abbrev Resolved := Query × List NamedColumn

/-- What was met while a statement is resolved. -/
structure Meetings where
  /-- The levels that functions over groups belong to. -/
  totals : List Nat := []
  /-- The functions over windows of the innermost query. -/
  windows : List Call := []
  /-- How many queries with names there were. -/
  named : Nat := 0

abbrev Resolver := StateT Meetings (Except StatementFault)

/-- A resolved part of a query. -/
structure ResolvedCore where
  core : Core
  columns : List NamedColumn
  /-- The names that are given to the columns. -/
  labels : List (Option String)
  order : List OrderTerm
  /-- What the terms of an order can speak of. -/
  scope : Scope

namespace Window

/-- The rows that a function sees if nothing is told: all up to the last one like its own. -/
def usualFrame : WindowFrame := { unit := .range, start := .unbounded, stop := .current }

/-- The frame of functions that always have the same one. -/
def ownFrame? (function : String) : Option WindowFrame :=
  match function with
  | "row_number" | "lag" => some { unit := .rows, start := .unbounded, stop := .current }
  | "rank" | "dense_rank" => some usualFrame
  | "percent_rank" => some { unit := .groups, start := .current, stop := .unbounded }
  | "cume_dist" =>
    some { unit := .groups, start := .after (.literal (.integer 1)), stop := .unbounded }
  | "ntile" => some { unit := .rows, start := .current, stop := .unbounded }
  | "lead" => some { unit := .rows, start := .unbounded, stop := .unbounded }
  | _ => none

/-- The window of a function with its frame. -/
def frameFor (window : Window) (function : String) (filtered : Bool) :
    Except StatementFault Window := do
  let frame := window.frame.getD usualFrame
  if frame.unit = .range ∧ window.order.length ≠ 1 ∧ ¬window.amounts.isEmpty then
    throw (.domain "RANGE with offset PRECEDING/FOLLOWING requires one ORDER BY expression")
  let isPure := Function.windows.any fun entry => entry.1 = function
  if isPure ∧ filtered then
    throw (.domain "FILTER clause may only be used with aggregate window functions")
  return { window with frame := some ((ownFrame? function).getD frame) }

end Window

namespace Resolver

variable {α : Type}

def ofExcept (result : Except StatementFault α) : Resolver α :=
  match result with
  | .ok value => return value
  | .error fault => throw fault

/-- The number of a column that an order goes by, if it is written as a number. -/
def placeOf? : Expression → Option Int
  | .literal (.integer n) => if n.natAbs < power 2 31 then some n else none
  | .unary .plus operand => placeOf? operand
  | .unary .negate operand => (placeOf? operand).map fun n => -n
  | _ => none

/-- The place of a name among those that are given to columns. -/
def labelPlace? (labels : List (Option String)) (name : String) : Option Nat :=
  labels.findIdx? fun (label : Option String) => label.any (sameName name)

/-- An expression that has to have one value has it. -/
def checkSingle (value : Expression) : Except StatementFault Unit :=
  if value.width = 1 then .ok ()
  else
    match value with
    | .scalar _ => .error (.queryWidth value.width 1)
    | _ => .error .rowMisused

/-- The name of a result column, as it is given or else as it is written. -/
def columnName (value : Expression) (label : Option String) (written : String) (place : Nat) :
    String :=
  let name := match label, value.withoutCollation with
    | some label, _ => label
    | none, .name path _ => path.getLast?.getD written
    | none, _ => written
  if name.toLower ∈ ["", "true", "false"] then "column" ++ toString (place + 1) else name

/-- A name without the number at its end that tells it from others. -/
def plainName (name : String) : String :=
  match name.toList.reverse.dropWhile Char.isDigit with
  | ':' :: front => if front.isEmpty then name else String.ofList front.reverse
  | _ => name

/-- The names, with numbers behind those that were there before. -/
def distinctNames (names : List String) : List String :=
  names.foldl (fun done name =>
    let isFree (name : String) : Bool := !done.any (sameName name)
    let numbered := (List.range (names.length + 1)).map fun number =>
      plainName name ++ ":" ++ toString (number + 1)
    done ++ [if isFree name then name else (numbered.find? isFree).getD name]) []

/-- The column that values of several queries make. -/
def commonColumn (name : String) (values : List Expression) : NamedColumn :=
  { name, leaning := Expression.commonLeaning values
    collation := some ((values.head?.bind Expression.collation?).getD "BINARY") }

/-- The columns that the parts of a query make together, with the names of the first part. -/
def commonColumns (parts : List ResolvedCore) : List NamedColumn :=
  match parts with
  | [] => []
  | [part] => part.columns
  | first :: _ => first.columns.zipIdx.map fun (column, place) =>
      commonColumn column.name (parts.filterMap fun part => part.core.values[place]?)

/-- Give the columns of a query the names that are told for them. -/
def rename (fault : Nat → Nat → StatementFault) (columns : List NamedColumn)
    (names : List String) : Except StatementFault (List NamedColumn) :=
  if names = [] then .ok columns
  else if names.length ≠ columns.length then .error (fault names.length columns.length)
  else .ok (List.zipWith (fun column name => { column with name }) columns names)

/-- The collation of a column that several queries give values for: the first there is. -/
def collationAt? (parts : List ResolvedCore) (place : Nat) : Option String :=
  parts.findSome? fun part => (part.core.values[place]?).bind Expression.collation?

/-- Whether an expression may be JSON text. -/
def mayBeJson (value : Expression) : Bool :=
  (value.findPart? (fun
    | .call invocation | .total _ invocation =>
      if JsonFunction.isName invocation.name then some () else none
    | .marked _ _ => some ()
    | _ => none) Expression.depthLimit).isSome

/-- Columns behind the others that tell which values are JSON text. -/
def addMarks (query : Query) (columns : List NamedColumn) : Query × List NamedColumn :=
  let places := (query.core.values.zipIdx.filter fun entry => mayBeJson entry.1).map
    fun entry => entry.2
  let marks := places.filterMap fun place => (query.core.values[place]?).map fun value =>
    ResultColumn.one (.call { name := "subtype", arguments := [value] }) none ""
  let columns := columns.zipIdx.map fun (column, place) =>
    { column with mark := (places.findIdx? (· = place)).map fun index => columns.length + index }
  ({ query with core := { query.core with columns := query.core.columns ++ marks } }, columns)

/-- The rows of a query are those of its sources one by one. -/
def isPlain (query : Query) : Bool :=
  query.rest.isEmpty && query.limit.isNone && !query.core.distinct && !query.core.grouped &&
    query.core.windows.isEmpty && !query.core.sources.isEmpty

/-- The columns that a star stands for, with or without the name of a table in front. -/
def starColumns (level : Level) (joins : List JoinKind) (table : Option String) :
    Except StatementFault (List (Expression × NamedColumn)) := do
  let several := 1 < level.sources.length
  let expanded ← level.sources.zipIdx.mapM fun (source, index) => do
    let later := level.sources.drop (index + 1)
    let isBefore := (joins.drop (index + 1)).any fun join => join = .right || join = .full
    if table.any fun table => !sameName source.label table then return []
    else
      let told (column : NamedColumn) : String :=
        (if source.isTable then "main." else "*.") ++ source.label ++ "." ++ column.name
      let shown := source.columns.zipIdx.filter fun (column, _) =>
        !column.hidden && !(table.isNone && (source.merge? column.name).isSome)
      shown.mapM fun (column, place) => do
        let own := level.toSlot source (place, column)
        let namesakes := level.sources.filter fun other =>
          sameName other.label source.label && other.isTable = source.isTable
        let found ←
          if several && isBefore && later.any fun other => (other.merge? column.name).isSome then
            level.findIn level.sources column.name column.name
          else if several && source.label ≠ "" && 1 < namesakes.length then
            level.findIn namesakes column.name (told column)
          else pure (some own)
        return (found.getD own, column)
  return expanded.flatten

/-- How a column is equal on both sides of a join. -/
def sharedCondition (level : Level) (isMixed : Bool) (before after : List NamedSource)
    (name : String) : Except StatementFault Expression := do
  let holders := before.filter fun source => (source.column? name).isSome
  let slot? (source : NamedSource) : Option Expression :=
    (source.column? name).map (level.toSlot source)
  match holders, after.findSome? slot? with
  | first :: more, some right =>
    if isMixed then
      if more.any fun source => (source.merge? name).isNone then
        throw (.domain ("ambiguous reference to " ++ name ++ " in USING()"))
      let left := match holders.filterMap slot? with
        | [one] => one
        | several => .merged several
      return .binary .equal left right
    else return .binary .equal ((slot? first).getD right) right
  | _, _ => throw (.cannotJoin name)

/-- How often a part of a query names a table right among its sources. -/
def directReferences (name : String) (core : Core) : Nat :=
  (core.sources.filter fun source =>
    match source.content with
    | .table other => sameName other name
    | _ => false).length

/-- The parts at the end of a query that ask for its own rows; the last part comes first. -/
def repeatedParts (name : String) (last : Compound) :
    List (Compound × Core) → Except StatementFault (List Core)
  | [] => .ok []
  | (operator, core) :: before =>
    if operator ≠ last then .ok []
    else
      match directReferences name core with
      | 0 => .ok []
      | 1 => do return core :: (← repeatedParts name last before)
      | _ => .error (.severalReferences name)

/-- A function somewhere right in the results of a part of a query passes a test. -/
def hasCall (core : Core) (test : Call → Bool) : Bool :=
  core.values.any fun value => (value.findPart? (fun
    | .call invocation => if test invocation then some () else none
    | _ => none) Expression.depthLimit).isSome

/-- The names in a written part of a query tell that its results are totals over groups. -/
def looksGrouped (core : Core) : Bool :=
  hasCall core fun call => call.window.isNone &&
    Function.takes Total.signatures call.name.toLower call.arguments.length

/-- A function that gives rows. -/
def rowFunction (scope : Scope) (keepsMarks : Query → Bool) (target : Source)
    (place : Nat) (name : String) (arguments : List Expression) :
    Resolver (SourceContent × List NamedSource) :=
  match RowFunction.find? name with
  | some function =>
    if function.arguments.length < arguments.length then
      throw (.rowArguments function.name function.arguments.length)
    else
      let width := function.columns.length + function.arguments.length
      let probe : Query := { core := { sources := [target] } }
      let markPlace (index : Nat) : Option Nat :=
        if function.markedColumn? = some index && keepsMarks probe then some (width + 1) else none
      let shown := function.columns.zipIdx.map fun (name, index) =>
        ({ name, leaning := some .blob, mark := markPlace index } : NamedColumn)
      let hidden := function.arguments.map fun name =>
        ({ name, leaning := some .blob, hidden := true } : NamedColumn)
      return (.call function.name arguments,
        [{ label := target.label.getD function.name, columns := shown ++ hidden, place
           hasKeys := true, extras := function.markedColumn?.toList.length }])
  | none =>
    if sameName name "dbstat" then throw (.domain "unsafe use of virtual table \"dbstat\"")
    else throw (scope.missingTable name)

/-- Groups of queries with names, with one more group inside. Each query gets a number. -/
def widen (around : List (List NamedQuery)) (own : List NamedQuery) :
    Resolver (List (List NamedQuery)) := do
  let count := (← get).named
  modify fun met => { met with named := count + own.length }
  let own := own.zipIdx.map fun (entry, index) => { entry with number := count + index }
  return if own.isEmpty then around else own :: around

mutual

/-- An expression, which may have several values. -/
def expression (fuel : Nat) (scope : Scope) (target : Expression) : Resolver Expression :=
  match fuel with
  | 0 => throw .constructorLimit
  | fuel + 1 =>
    match target with
    | .literal _ | .slot _ _ _ _ | .total _ _ | .standing _ _ _ | .kept _ _ _ => return target
    | .numeral written =>
      match Literal.numeralValue written with
      | .ok value => return .literal value
      | .error fault => if scope.lenient then return target else throw fault
    | .parameter _ => do
      ofExcept (scope.prohibit "parameters")
      return if scope.inTrigger then .literal .null else target
    | .name path quoted => ofExcept (scope.find path quoted)
    | .unary operator operand => do return .unary operator (← single fuel scope operand)
    | .binary operator left right => do
      let first ← expression fuel scope left
      let second ← expression fuel scope right
      if operator.isComparison then
        if first.width ≠ second.width then throw .rowMisused
        (first.components.zip second.components).forM fun (first, second) =>
          ofExcept (scope.checkCollation (Expression.collationName? first second))
      else
        ofExcept (checkSingle first)
        ofExcept (checkSingle second)
      let truth? : Option Bool := match right, second with
        | .name [word] false, .literal (.integer n) =>
          if word.toLower = "true" ∨ word.toLower = "false" then some (n = 1) else none
        | _, _ => none
      match operator, truth? with
      | .is, some truth => return .counts first truth
      | .isNot, some truth => return .unary .not (.counts first truth)
      | operator, _ => return .binary operator first second
    | .counts operand asTrue => do return .counts (← single fuel scope operand) asTrue
    | .between operand low high => do
      let operand ← expression fuel scope operand
      let low ← expression fuel scope low
      let high ← expression fuel scope high
      if operand.width ≠ low.width ∨ operand.width ≠ high.width then throw .rowMisused
      return .between operand low high
    | .among operand choices => do
      let operand ← single fuel scope operand
      return .among operand (← choices.mapM (single fuel scope))
    | .amongRows operand inner => do
      ofExcept (scope.prohibit "subqueries")
      let operand ← expression fuel scope operand
      let (inner, columns) ← query fuel scope inner
      if columns.length ≠ operand.width then throw (.queryWidth columns.length operand.width)
      return .amongRows operand inner
    | .choose base arms otherwise => do
      let base ← base.mapM (single fuel scope)
      let arms ← arms.mapM fun arm => do
        let condition ← single fuel scope arm.1
        return (condition, ← single fuel scope arm.2)
      return .choose base arms (← single fuel scope otherwise)
    | .cast operand type => do return .cast (← single fuel scope operand) type
    | .collate operand collation => do return .collate (← single fuel scope operand) collation
    | .call invocation => call fuel scope invocation
    | .scalar inner => do
      ofExcept (scope.prohibit "subqueries")
      return .scalar (← query fuel scope inner).1
    | .component place whole => do return .component place (← expression fuel scope whole)
    | .merged columns => do return .merged (← columns.mapM (single fuel scope))
    | .marked value mark => do
      return .marked (← single fuel scope value) (← single fuel scope mark)
    | .isThere inner => do
      ofExcept (scope.prohibit "subqueries")
      return .isThere (← query fuel scope inner).1
    | .raise policy message => do
      if !scope.inTrigger && !scope.lenient then throw .raiseOutside
      return .raise policy (← single fuel scope message)
    | .vector items => do return .vector (← items.mapM (single fuel scope))
termination_by structural fuel

/-- An expression with one value. -/
def single (fuel : Nat) (scope : Scope) (target : Expression) : Resolver Expression :=
  match fuel with
  | 0 => throw .constructorLimit
  | fuel + 1 => do
    let value ← expression fuel scope target
    ofExcept (checkSingle value)
    return value
termination_by structural fuel

def terms (fuel : Nat) (scope : Scope) (targets : List OrderTerm) : Resolver (List OrderTerm) :=
  match fuel with
  | 0 => throw .constructorLimit
  | fuel + 1 => targets.mapM fun term => do
      return { term with value := ← single fuel scope term.value }
termination_by structural fuel

def call (fuel : Nat) (scope : Scope) (target : Call) : Resolver Expression :=
  match fuel with
  | 0 => throw .constructorLimit
  | fuel + 1 => do
    let kind ← ofExcept (scope.callKind target)
    let name := target.name.toLower
    if kind = .plain then
      let arguments ← target.arguments.mapM (single fuel scope)
      return .call { name := if Function.isKnown name then name else target.name, arguments }
    else
      let inner := scope.change fun level =>
        { level with windows := false, totals := level.totals && kind = .windowed }
      let arguments ← target.arguments.mapM (single fuel inner)
      let order ← terms fuel inner target.order
      let level := (scope.levels.head?).getD { depth := scope.depth }
      match target.window with
      | some window =>
        let window ← ofExcept (window.settle level.definitions)
        let window ← ofExcept (window.frameFor name target.filter.isSome)
        let partition ← window.partition.mapM (single fuel inner)
        let windowOrder ← terms fuel inner window.order
        let filter ← target.filter.mapM (single fuel inner)
        let window := { window with base := none, partition, order := windowOrder }
        let place := level.width + (← get).windows.length
        modify fun met => { met with windows := met.windows ++
          [{ target with name, arguments, order, filter, window := some window }] }
        return .slot level.depth place none none
      | none =>
        let filter ← target.filter.mapM (single fuel inner)
        let known := (scope.levels.filter fun level => !level.isTrigger).map Level.depth
        let looked := (arguments ++ order.map OrderTerm.value ++ filter.toList).flatMap
          Expression.levels
        let own := (looked.filter fun depth => known.contains depth).max?.getD level.depth
        modify fun met => { met with totals := own :: met.totals }
        return .total own
          { name, star := target.star, distinct := target.distinct, arguments, order, filter }
termination_by structural fuel

/-- A query, with its own functions over groups apart from those around it. -/
def query (fuel : Nat) (scope : Scope) (target : Query) : Resolver Resolved :=
  match fuel with
  | 0 => throw .constructorLimit
  | fuel + 1 => do
    let named ← widen scope.named target.named
    let scope := { scope with named, position := .anywhere, current := none }
    let (limit, offset) ← limits fuel scope target.limit target.offset
    if target.rest.isEmpty then
      let part ← core fuel scope target.core target.order
      return ({ core := part.core, order := part.order, limit, offset }, part.columns)
    else
      let rest ← target.rest.reverse.mapM fun (operator, next) => do
        return (operator, ← core fuel scope next [])
      let rest := rest.reverse
      let first ← core fuel scope target.core []
      let parts := first :: rest.map fun entry => entry.2
      ofExcept (checkWidths parts (rest.map fun entry => entry.1))
      let order ← compoundOrder fuel scope parts target.order
      return ({ core := first.core, rest := rest.map fun (operator, part) => (operator, part.core),
                order, limit, offset }, commonColumns parts)
termination_by structural fuel

/-- How many rows are asked for, and how many are left out before; no columns are there. -/
def limits (fuel : Nat) (scope : Scope) (limit offset : Option Expression) :
    Resolver (Option Expression × Option Expression) :=
  match fuel with
  | 0 => throw .constructorLimit
  | fuel + 1 => do
    let outside := { scope with levels := scope.levels.filter Level.isTrigger }
    let limit ← limit.mapM (single fuel outside)
    return (limit, ← offset.mapM (single fuel outside))
termination_by structural fuel

/-- The order of rows that several parts of a query give. Each term is a result of one of them. -/
def compoundOrder (fuel : Nat) (scope : Scope) (parts : List ResolvedCore)
    (targets : List OrderTerm) : Resolver (List OrderTerm) :=
  match fuel with
  | 0 => throw .constructorLimit
  | fuel + 1 => do
    let width := (parts.head?.map fun part => part.columns.length).getD 0
    let placeIn (value : Expression) (part : ResolvedCore) : Resolver (Option Nat) := do
      let label? := match value with
        | .name [name] _ => labelPlace? part.labels name
        | _ => none
      if label?.isSome then return label?
      else
        tryCatch (do
          let value ← expression fuel part.scope value
          return part.core.values.findIdx? fun (other : Expression) =>
            other.withoutCollation.isSame value)
          fun _ => return none
    let found ← targets.zipIdx.mapM fun (term, index) => do
      let value := term.value.withoutCollation
      match placeOf? value with
      | some n =>
        if n < 1 ∨ width < n then throw (.orderPlace (index + 1) width "ORDER")
        return some (n.toNat - 1)
      | none => parts.findSomeM? (placeIn value)
    (targets.zip found).zipIdx.mapM fun ((term, place), index) => do
      match place with
      | some place =>
        let slot := Expression.slot scope.depth place none (collationAt? parts place)
        return { term with value := term.value.rewrap slot }
      | none => throw (.orderUnmatched (index + 1))
termination_by structural fuel

/-- All parts of a query have as many columns as the first one. -/
def checkWidths (parts : List ResolvedCore) (operators : List Compound) :
    Except StatementFault Unit :=
  let widths := parts.map fun part => part.columns.length
  let pairs := ((widths.zip (widths.drop 1)).zip operators).filter fun ((a, b), _) => a ≠ b
  match pairs.getLast? with
  | some (_, operator) => .error (.unionWidth operator.words)
  | none => .ok ()

/-- One part of a query, and the terms that its rows are ordered by. -/
def core (fuel : Nat) (scope : Scope) (target : Core) (order : List OrderTerm) :
    Resolver ResolvedCore :=
  match fuel with
  | 0 => throw .constructorLimit
  | fuel + 1 => do
    let before ← get
    let depth := scope.depth
    let apart (met : Meetings) : List Nat := met.totals.filter (· ≠ depth)
    let isPlainOutside := target.group.isEmpty && !hasCall target fun call => call.window.isSome
    let keepsMarks (inner : Query) : Bool :=
      isPlainOutside && isPlain inner && (inner.order.isEmpty || !looksGrouped target)
    let (sources, names) ← sources fuel scope keepsMarks 0 target.sources
    let within := (scope.enter names).change fun level =>
      { level with totals := true, windows := true, definitions := target.definitions }
    let level := within.levels.headD { depth }
    modify fun met => { met with totals := apart before, windows := [] }
    let joins := target.sources.map Source.join
    let star (table : Option String) :
        Resolver (List (Expression × NamedColumn × Option String)) := do
      return (← ofExcept (starColumns level joins table)).map fun (value, column) =>
        (value, column, some column.name)
    let columns ← target.columns.zipIdx.mapM fun (column, place) => do
      match column with
      | .one value label written =>
        let resolved ← single fuel within value
        let column : NamedColumn :=
          { name := columnName value label written place, leaning := resolved.leaning?
            collation := some (resolved.collation?.getD "BINARY") }
        return [(resolved, column, label)]
      | .all =>
        if names.isEmpty then throw .noTables
        star none
      | .allOf table =>
        if !names.any fun source => sameName source.label table then throw (.missing .table table)
        star (some table)
    let columns := columns.flatten
    let values := columns.map fun entry => entry.1
    let labels := columns.map fun entry => entry.2.2
    let grouped := (← get).totals.contains depth || !target.group.isEmpty
    let labelled := (labels.zip values).filterMap fun (label, value) =>
      label.map fun label => (label, value)
    let behind := within.change fun level =>
      { level with labels := labelled, totals := grouped, windows := false }
    let refuseTotals (value : Expression) : Resolver Unit :=
      match value.totalOf? depth with
      | some name => throw (.strayAggregate name)
      | none => return
    if target.having.isSome ∧ ¬grouped then throw .havingWithoutGroup
    let having ← target.having.mapM (single fuel behind)
    let filter ← target.filter.mapM (single fuel behind)
    filter.forM refuseTotals
    let (sources, more) ← conditions fuel behind sources target.sources
    more.forM refuseTotals
    let result (place : Nat) : Expression := values.getD place (.literal .null)
    let pick (clause : String) (index : Nat) (inner : Scope) (target : Expression) :
        Resolver Expression := do
      let value := target.withoutCollation
      let label? := match value, clause with
        | .name [name] _, "ORDER" => labelPlace? labels name
        | _, _ => none
      match label?, placeOf? value with
      | some place, _ => return target.rewrap (result place)
      | none, some n =>
        if n < 1 ∨ columns.length < n then
          throw (.orderPlace (index + 1) columns.length clause)
        return target.rewrap (result (n.toNat - 1))
      | none, none => single fuel inner target
    let last := behind.alone.change fun level => { level with totals := true }
    let windowed := last.change fun level => { level with windows := true }
    let terms ← order.zipIdx.mapM fun (term, index) => do
      return { term with value := ← pick "ORDER" index windowed term.value }
    if !grouped then terms.forM fun term => refuseTotals term.value
    let group ← target.group.zipIdx.mapM fun (value, index) => pick "GROUP" index last value
    if group.any fun value => (value.totalOf? depth).isSome then throw .aggregateInGroup
    let after ← get
    modify fun met => { met with totals := apart after, windows := before.windows }
    let unique := distinctNames (columns.map fun entry => entry.2.1.name)
    let named := List.zipWith (fun (_, column, _) name =>
      { column with name, hidden := false, mark := none }) columns unique
    let filter := Expression.conjunction (filter.toList ++ more)
    return { core := { distinct := target.distinct, sources, filter, group, having, grouped,
                       columns := values.map fun value => .one value none ""
                       windows := after.windows, width := level.width }
             columns := named, labels, order := terms, scope := last }
termination_by structural fuel

/-- The sources of a query, with the conditions for the columns they share, and how names see
them. -/
def sources (fuel : Nat) (scope : Scope) (keepsMarks : Query → Bool) (start : Nat)
    (targets : List Source) : Resolver (List Source × List NamedSource) :=
  match fuel with
  | 0 => throw .constructorLimit
  | fuel + 1 => do
    let isMixed := targets.any fun target => target.join = .right || target.join = .full
    let step (state : List Source × List NamedSource) (target : Source) :
        Resolver (List Source × List NamedSource) := do
      let (done, before) := state
      let place := start + (before.map NamedSource.width).sum
      let (content, found) ← source fuel scope keepsMarks target place
      if target.natural ∧ (target.condition.isSome ∨ target.shared ≠ []) then
        throw (.domain "a NATURAL join may not have an ON or USING clause")
      let isBefore (name : String) : Bool :=
        before.any fun source => source.columns.any fun column =>
          !column.hidden && sameName column.name name
      let shared := if target.natural then
          (found.flatMap fun source => (source.columns.filter fun column => !column.hidden).map
            NamedColumn.name).filter isBefore
        else target.shared
      let level : Level := { depth := scope.depth }
      let conditions ← shared.mapM fun name =>
        ofExcept (sharedCondition level isMixed before found name)
      let merge (source : NamedSource) : NamedSource :=
        { source with merges := source.merges ++ shared.map fun name => (name, target.join) }
      let named := match target.content, content with
        | .table _, .current _ => none
        | .table name, _ => (scope.namedQuery? name).map fun entry =>
            (entry.1.number, entry.1.keeping)
        | _, _ => none
      let resolved : Source :=
        { target with content, named, condition := Expression.conjunction conditions, place
                      width := (found.map NamedSource.width).sum }
      return (done ++ [resolved], before ++ found.map merge)
    targets.foldlM step ([], [])
termination_by structural fuel

/-- The conditions of joins and the arguments of sources. Conditions that speak of sources that
come later are told apart from the others. -/
def conditions (fuel : Nat) (scope : Scope) (resolved targets : List Source) :
    Resolver (List Source × List Expression) :=
  match fuel with
  | 0 => throw .constructorLimit
  | fuel + 1 => do
    let isMixed := targets.any fun target => target.join = .right || target.join = .full
    let depth := (scope.levels.head?.map Level.depth).getD scope.depth
    let looksFurther (stop : Nat) (condition : Expression) : Bool :=
      (condition.gather (fun
        | .slot level place _ _ => if level = depth ∧ stop ≤ place then some () else none
        | _ => none) Expression.depthLimit).length > 0
    let settled ← (resolved.zip targets).mapM fun (source, target) => do
      let own ← target.condition.mapM (single fuel scope)
      let terms := (own.map Expression.conjuncts).getD []
      let (late, early) := terms.partition (looksFurther (source.place + source.width))
      if !late.isEmpty && (isMixed || target.join ≠ .inner) then
        throw (.domain "ON clause references tables to its right")
      let condition := Expression.conjunction (source.condition.toList ++ early)
      return ({ source with condition }, late)
    let sources ← settled.mapM fun (source, _) => do
      match source.content with
      | .call name arguments =>
        let arguments ← arguments.mapM (single fuel scope)
        return { source with content := .call name arguments }
      | _ => return source
    return (sources, settled.flatMap fun entry => entry.2)
termination_by structural fuel

/-- What one source gives, and how names see it from a place on. -/
def source (fuel : Nat) (scope : Scope) (keepsMarks : Query → Bool) (target : Source)
    (place : Nat) : Resolver (SourceContent × List NamedSource) :=
  match fuel with
  | 0 => throw .constructorLimit
  | fuel + 1 => do
    let seen (columns : List NamedColumn) (name : String) : List NamedSource :=
      [{ label := target.label.getD name, columns, place, hasKeys := false }]
    let marked (inner : Query) (columns : List NamedColumn) (name : String) :
        SourceContent × List NamedSource :=
      let (inner, columns) := if keepsMarks inner then addMarks inner columns else (inner, columns)
      (.query inner, (seen columns name).map fun source =>
        { source with extras := inner.core.columns.length - columns.length })
    let outside := { scope with current := none }
    match target.content with
    | .query inner =>
      let (inner, columns) ← query fuel outside inner
      return marked inner columns ""
    | .joined inner =>
      let (found, names) ← sources fuel outside keepsMarks place inner
      let within := (outside.enter names)
      let (found, more) ← conditions fuel within found inner
      let found := match found.reverse with
        | last :: before => (({ last with
            condition := Expression.conjunction (last.condition.toList ++ more) } : Source) ::
              before).reverse
        | [] => []
      return (.joined found, names)
    | .recursion _ | .current _ => return (target.content, [])
    | .call name arguments =>
      if (scope.namedQuery? name).isSome || (Scope.table? scope.catalog name).isSome then
        throw (.notCallable name)
      rowFunction scope keepsMarks target place name arguments
    | .table name =>
      if scope.current.any fun current => sameName current.1 name then
        let columns := (scope.current.map fun current => current.2).getD []
        return (.current name, seen columns name)
      else
        match scope.namedQuery? name with
        | some (entry, around) =>
          let (content, columns) ← namedQuery fuel scope entry around
          match content with
          | .query inner => return marked inner columns entry.name
          | content => return (content, seen columns entry.name)
        | none =>
          match Scope.table? scope.catalog name with
          | none => rowFunction scope keepsMarks target place name []
          | some table =>
            match table.form with
            | .virtual module => throw (.missing .module module)
            | .stored =>
              let label := target.label.getD table.name
              let found :=
                NamedSource.ofColumns label (Scope.tableColumns table) table.hasRowKeys
              return (.table table.name, [{ found with place }])
            | .view names inner =>
              if scope.views.any (sameName table.name) then throw (.circular table.name)
              let around : Scope := { catalog := scope.catalog, depth := scope.depth
                                      views := table.name :: scope.views, tellsDatabase := true }
              let (resolved, columns) ← query fuel around inner
              let columns ← ofExcept (rename (.viewWidth table.name) columns names)
              return marked resolved columns table.name
termination_by structural fuel

/-- A query with a name in the place of the name. It may ask for its own rows. -/
def namedQuery (fuel : Nat) (scope : Scope) (entry : NamedQuery) (around : List (List NamedQuery)) :
    Resolver (SourceContent × List NamedColumn) :=
  match fuel with
  | 0 => throw .constructorLimit
  | fuel + 1 => do
    let name := entry.name
    let isOwn (busy : Busy) : Bool := busy.depth = around.length && sameName busy.name name
    match scope.busy.find? isOwn with
    | some busy =>
      throw (if busy.isRecursive then .domain ("multiple recursive references: " ++ name)
        else .circularQuery name)
    | none => pure ()
    let busy (isRecursive : Bool) : List Busy := ⟨around.length, name, isRecursive⟩ :: scope.busy
    let inner := { scope with named := around, current := none, busy := busy false }
    let body := entry.query
    let chosen := rename fun told given => .namedWidth name given told
    let last := (body.rest.getLast?.map fun entry => entry.1).getD .except
    let repeated ← if last = .union ∨ last = .unionAll then
        ofExcept (repeatedParts name last body.rest.reverse)
      else pure []
    if repeated.isEmpty then
      let (resolved, columns) ← query fuel inner body
      return (.query resolved, ← ofExcept (chosen columns entry.columns))
    else
      let rest := body.rest.take (body.rest.length - repeated.length)
      let named ← widen around body.named
      let inner := { inner with named }
      let (start, columns) ← query fuel inner { core := body.core, rest }
      let columns ← ofExcept (chosen columns entry.columns)
      let repeating := { inner with named, busy := busy true, current := some (name, columns) }
      let (limit, offset) ← limits fuel inner body.limit body.offset
      let parts ← repeated.reverse.mapM fun part => core fuel repeating part []
      if parts.any fun part => !part.core.windows.isEmpty then
        throw (.domain "cannot use window functions in recursive queries")
      if parts.any fun part => part.core.grouped then
        throw (.domain "recursive aggregate queries not supported")
      if parts.any fun part => part.columns.length ≠ columns.length then
        throw (.unionWidth last.words)
      let beginning := (start.core :: start.rest.map fun entry => entry.2).map fun core =>
        ({ core, columns, labels := columns.map fun column => some column.name, order := []
           scope := inner } : ResolvedCore)
      let all := beginning ++ parts
      let order ← compoundOrder fuel scope all body.order
      let common := (commonColumns all).zip columns
      return (.recursion { name, start, repeated := parts.map ResolvedCore.core
                           distinct := last = .union, order, limit, offset },
        common.map fun (column, own) => { column with name := own.name })
termination_by structural fuel

end

def run (resolver : Resolver α) : Except StatementFault α := do
  let (value, _) ← StateT.run resolver {}
  return value

end Resolver

namespace Scope

def resolve (scope : Scope) (target : Expression) : Except StatementFault Expression :=
  (Resolver.single Expression.depthLimit scope target).run

def resolveQuery (scope : Scope) (target : Query) : Except StatementFault Resolved :=
  (Resolver.query Expression.depthLimit scope target).run

/-- The scope of an expression over the columns of a table. -/
def ofTable (catalog : Catalog) (table : Table) : Scope :=
  let scope : Scope := { catalog }
  scope.enter [NamedSource.ofColumns table.name (tableColumns table) table.hasRowKeys]

end Scope

end SignalGraph.Database
