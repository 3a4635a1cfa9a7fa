import SignalGraph.Database.Expression
import SignalGraph.Database.RowFunction

/-! What a name can stand for at a place of a statement.

A query has rows of its sources, one source behind the other, and behind the columns of a table
that has them the numbers of its rows. A column becomes a place in such a row. Queries inside
others have levels, counted from the outside, so that a query keeps its meaning wherever it is
used.
-/

set_option autoImplicit false

namespace SignalGraph.Database

/-- A column as names see it. -/
structure NamedColumn where
  name : String
  leaning : Option Leaning := none
  collation : Option String := some "BINARY"
  /-- A star does not stand for it. -/
  hidden : Bool := false
  /-- Where it is told whether the value is JSON text, counted like the columns. -/
  mark : Option Nat := none

/-- A source of rows as names see it, with the place where its columns begin. -/
structure NamedSource where
  label : String
  columns : List NamedColumn
  place : Nat
  /-- The number of the row stands behind the columns. -/
  hasKeys : Bool
  /-- Values behind the columns that no name stands for, beside the number of the row. -/
  extras : Nat := 0
  /-- It is a table of the database. -/
  isTable : Bool := false
  /-- Its columns are only meant by names with its own in front. -/
  apart : Bool := false
  /-- Columns that it shares with sources before it, and how it is joined to them. -/
  merges : List (String × JoinKind) := []

namespace NamedSource

def width (source : NamedSource) : Nat :=
  source.columns.length + (if source.hasKeys then 1 else 0) + source.extras

/-- The columns of a table, the number of the row behind them. -/
def ofColumns (label : String) (columns : List NamedColumn) (hasKeys : Bool) : NamedSource :=
  { label, columns, place := 0, hasKeys, isTable := true }

/-- The first column of a name, and its number. -/
def column? (source : NamedSource) (name : String) : Option (Nat × NamedColumn) :=
  (source.columns.zipIdx.find? fun entry => sameName entry.1.name name).map fun entry =>
    (entry.2, entry.1)

def merge? (source : NamedSource) (name : String) : Option JoinKind :=
  (source.merges.find? fun entry => sameName entry.1 name).map fun entry => entry.2

end NamedSource

/-- The sources of a query around a place of a statement. -/
structure Level where
  depth : Nat
  sources : List NamedSource := []
  /-- Windows that functions may take over. -/
  definitions : List (String × Window) := []
  /-- Results of the query that have a name. -/
  labels : List (String × Expression) := []
  /-- Functions over groups are welcome. -/
  totals : Bool := false
  /-- Functions over windows are welcome. -/
  windows : Bool := false
  /-- It is the row that a trigger fires for. -/
  isTrigger : Bool := false

namespace Level

def width (level : Level) : Nat := level.sources.foldl (fun total source => total + source.width) 0

end Level

/-- Where an expression is written. -/
inductive Position where
  | anywhere
  | check
  | indexTerm
  | indexFilter
  | generated
  deriving DecidableEq

def Position.words : Position → String
  | anywhere => "statements"
  | check => "CHECK constraints"
  | indexTerm => "index expressions"
  | indexFilter => "partial index WHERE clauses"
  | generated => "generated columns"

/-- A query with a name that is being resolved: how many groups of such queries are around it. -/
structure Busy where
  depth : Nat
  name : String
  /-- Its own rows are known already. -/
  isRecursive : Bool

/-- What names can stand for at a place of a statement. -/
structure Scope where
  catalog : Catalog
  /-- The queries around, the innermost first. -/
  levels : List Level := []
  /-- The level of the next query. -/
  depth : Nat := 0
  /-- Groups of queries with names, the innermost first. -/
  named : List (List NamedQuery) := []
  busy : List Busy := []
  /-- The query over its own rows that is being resolved, with its columns. -/
  current : Option (String × List NamedColumn) := none
  /-- Views that are being put in the place of their names. -/
  views : List String := []
  position : Position := .anywhere
  /-- The statement is a step of a trigger. -/
  inTrigger : Bool := false
  /-- Tables are told with their database. -/
  tellsDatabase : Bool := false
  /-- Functions need not be known yet. -/
  lenient : Bool := false

/-- What kind of function a call is of. -/
inductive CallKind where
  | plain
  | total
  | windowed
  deriving DecidableEq

namespace Expression

/-- The first function over the group of a level, anywhere inside. -/
def totalOf? (depth : Nat) (expression : Expression) : Option String :=
  (expression.gather (fun
    | .total level invocation => if level = depth then some invocation.name else none
    | _ => none) depthLimit).head?

/-- A function over a window of a level stands right in the expression. -/
def hasWindow (level : Level) (expression : Expression) : Bool :=
  (expression.findPart? (fun
    | .slot depth place _ _ =>
      if depth = level.depth ∧ level.width ≤ place then some () else none
    | _ => none) depthLimit).isSome

end Expression

namespace Level

/-- A column of a source of the level. -/
def toSlot (level : Level) (source : NamedSource) (found : Nat × NamedColumn) : Expression :=
  let column := found.2
  let value := .slot level.depth (source.place + found.1) column.leaning column.collation
  match column.mark with
  | some place => .marked value (.slot level.depth (source.place + place) none none)
  | none => value

def keySlot (level : Level) (source : NamedSource) : Expression :=
  .slot level.depth (source.place + source.columns.length) (some .integer) none

def isKeyName (name : String) : Bool :=
  ["rowid", "_rowid_", "oid"].contains name.toLower

/-- A column of a name as it is looked for in one source after the other. -/
structure Search where
  count : Nat := 0
  found : Option Expression := none
  /-- Columns that a join makes one of with the one that is found. -/
  merged : List Expression := []

/-- Look for a column in one more source. -/
def Search.step (level : Level) (name : String) (search : Search) (source : NamedSource) :
    Search :=
  match source.column? name with
  | none => search
  | some column =>
    let next := level.toSlot source column
    match search.found, source.merge? name with
    | none, _ | some _, some .right => { count := 1, found := some next }
    | some _, none => { count := search.count + 1, found := some next }
    | some _, some .inner | some _, some .left => search
    | some before, some .full =>
      { count := search.count + 1, found := some next, merged := search.merged ++ [before] }

/-- A column in some sources of the level. -/
def findIn (level : Level) (sources : List NamedSource) (name told : String) :
    Except StatementFault (Option Expression) :=
  let search := sources.foldl (Search.step level name) {}
  match search.count, search.found with
  | 0, _ | _, none =>
    if isKeyName name then
      match sources.filter NamedSource.hasKeys with
      | [] => .ok none
      | [source] => .ok (some (level.keySlot source))
      | _ => .error (.ambiguousColumn told)
    else .ok none
  | 1, found => .ok found
  | count, some last =>
    if search.merged.length + 1 = count then .ok (some (.merged (search.merged ++ [last])))
    else .error (.ambiguousColumn told)

/-- The result of a name. Functions over groups or windows have to be welcome. -/
def label? (level : Level) (isInnermost : Bool) (name : String) :
    Except StatementFault (Option Expression) :=
  match level.labels.find? fun entry => sameName entry.1 name with
  | none => .ok none
  | some (label, value) =>
    if !level.totals && (value.totalOf? level.depth).isSome then
      .error (.misusedAlias "aggregate" label)
    else if value.hasWindow level && !(isInnermost && level.windows) then
      .error (.misusedAlias "window function" label)
    else if value.width ≠ 1 then .error .rowMisused
    else .ok (some value)

end Level

namespace Scope

/-- The scope without names for the numbers of rows. -/
def withoutKeys (scope : Scope) : Scope :=
  { scope with levels := scope.levels.map fun level =>
      { level with sources := level.sources.map fun source => { source with hasKeys := false } } }

/-- A column by its name alone. -/
def findColumn (scope : Scope) (column : String) : Except StatementFault (Option Expression) :=
  go true scope.levels
where
  go (isInnermost : Bool) : List Level → Except StatementFault (Option Expression)
    | [] => .ok none
    | level :: around => do
      let sources := level.sources.filter fun source => !source.apart
      match ← level.findIn sources column column with
      | some found => return some found
      | none =>
        match ← level.label? isInnermost column with
        | some found => return some found
        | none => go false around

/-- A column of a source with a name; the name of the database may stand in front. -/
def findIn (scope : Scope) (database : Option String) (table column told : String) :
    Except StatementFault (Option Expression) :=
  go scope.levels
where
  isMeant (source : NamedSource) : Bool :=
    sameName source.label table &&
      match database with
      | none => true
      | some name => sameName name "main" && source.isTable && !source.apart
  go : List Level → Except StatementFault (Option Expression)
    | [] => .ok none
    | level :: around => do
      match ← level.findIn (level.sources.filter isMeant) column told with
      | some found => return some found
      | none => go around

def find (scope : Scope) (path : List String) (quoted : Bool) :
    Except StatementFault Expression := do
  let insideTable := scope.position = .indexTerm ∨ scope.position = .generated
  let told := String.intercalate "." path
  match path with
  | [column] =>
    match ← (if insideTable then scope.withoutKeys else scope).findColumn column with
    | some found => return found
    | none =>
      if quoted then return .literal (.text column)
      else if column.toLower = "true" then return .literal (.integer 1)
      else if column.toLower = "false" then return .literal (.integer 0)
      else throw (.missing .column column)
  | [table, column] =>
    if insideTable then throw (.prohibited "the \".\" operator" scope.position.words)
    match ← scope.findIn none table column told with
    | some found => return found
    | none => throw (.missing .column told)
  | database :: table :: column :: _ =>
    if insideTable then throw (.prohibited "the \".\" operator" scope.position.words)
    match ← scope.findIn (some database) table column told with
    | some found => return found
    | none => throw (.missing .column told)
  | [] => throw .incomplete

/-- The scope with another innermost level. -/
def change (scope : Scope) (change : Level → Level) : Scope :=
  match scope.levels with
  | level :: around => { scope with levels := change level :: around }
  | [] => scope

/-- The scope inside of a query at the level of this one. -/
def enter (scope : Scope) (sources : List NamedSource) : Scope :=
  { scope with levels := { depth := scope.depth, sources } :: scope.levels,
               depth := scope.depth + 1 }

/-- The scope without the queries around; rows of triggers stay. -/
def alone (scope : Scope) : Scope :=
  match scope.levels with
  | level :: around => { scope with levels := level :: around.filter Level.isTrigger }
  | [] => scope

/-- Tables of a trigger or a view that are not there are told with their database. -/
def missingTable (scope : Scope) (name : String) : StatementFault :=
  .missing .table (if scope.tellsDatabase then "main." ++ name else name)

def prohibit (scope : Scope) (what : String) : Except StatementFault Unit :=
  if scope.position = .anywhere then .ok () else .error (.prohibited what scope.position.words)

/-- The value is a real that is written, and no more than one. -/
def isChance : Expression → Bool
  | .literal (.real x) => !(1.0 : Binary64).less x
  | _ => false

/-- The kind of function that a call is of, after a look at what it comes with. -/
def callKind (scope : Scope) (call : Call) : Except StatementFault CallKind := do
  let name := call.name.toLower
  let count := call.arguments.length
  if Function.takes Function.signatures name count then
    if name = "likelihood" ∧ ¬(call.arguments.getLast?.any isChance) then
      throw (.domain
        ("second argument to " ++ call.name ++ "() must be a constant between 0.0 and 1.0"))
    if Function.isCircumstantial name ∧ scope.position ≠ .anywhere ∧ scope.position ≠ .check then
      throw (.prohibited "non-deterministic functions" scope.position.words)
    if name ∈ Function.guarded then throw (.domain ("unsafe use of " ++ call.name ++ "()"))
    if call.window.isSome then throw (.notWindow call.name)
    if call.filter.isSome then throw (.filteredCall call.name)
    if !call.order.isEmpty then throw (.orderedCall call.name)
    return .plain
  else
    let isTotal := Function.takes Total.signatures name count
    let isWindow := Function.takes Function.windows name count
    if isTotal ∨ isWindow then
      let inner := scope.levels.head?
      let totals := inner.any Level.totals
      let windows := inner.any Level.windows
      if !totals || (isWindow && call.window.isNone) || (call.window.isSome && !windows) then
        throw (if isWindow ∨ call.window.isSome then .misusedWindow call.name
          else .misusedAggregate call.name)
      if call.distinct ∧ count ≠ 1 then throw .distinctCall
      return if call.window.isSome then .windowed else .total
    else if Function.isKnown name then throw (.argumentCount call.name)
    else if scope.lenient then return .plain
    else throw (.missing .function call.name)

/-- A comparison knows its collation. -/
def checkCollation (scope : Scope) (name : Option String) : Except StatementFault Unit :=
  match name with
  | some name =>
    if (Collation.ofName? name).isSome ∨ scope.lenient then .ok ()
    else .error (.missing .collation name)
  | none => .ok ()

/-- The columns of a table as names see them. -/
def tableColumns (table : Table) : List NamedColumn :=
  table.columns.map fun column =>
    { name := column.name, leaning := some (table.leaning column), collation := some column.collation }

/-- The table that a schema is held in. -/
def schemaTable : Table :=
  let column (name type : String) : Column := { name, type }
  { name := "sqlite_master", root := 1
    columns := [column "type" "TEXT", column "name" "TEXT", column "tbl_name" "TEXT",
      column "rootpage" "INT", column "sql" "TEXT"] }

def table? (catalog : Catalog) (name : String) : Option Table :=
  if sameName name "sqlite_master" || sameName name "sqlite_schema" then some schemaTable
  else catalog.table? name

/-- The query of a name, and the groups of queries around it, its own in front. -/
def namedQuery? (scope : Scope) (name : String) :
    Option (NamedQuery × List (List NamedQuery)) :=
  go scope.named
where
  go : List (List NamedQuery) → Option (NamedQuery × List (List NamedQuery))
    | [] => none
    | group :: around =>
      match group.find? fun entry => sameName entry.name name with
      | some entry => some (entry, group :: around)
      | none => go around

end Scope

end SignalGraph.Database
