import SignalGraph.Database.Reference
import SignalGraph.Database.Plan.Basic

/-! Changes and triggers made ready to be run: tables are found, names resolved, and the triggers
that may fire along the way are ready too.

A change that cannot be made ready is not begun. Some faults are only remembered: a later one that
is found while the statement itself is looked at is told instead, one in a trigger is not.
-/

set_option autoImplicit false

namespace SignalGraph.Database

/-- What is done about a row that is there already. -/
structure Resolution where
  /-- The names of the columns that the conflict is about; without any it is about all. -/
  target : List Nat
  changes : Option (List (Nat × Expression) × Option Expression)

structure Insertion where
  table : Table
  policy : Option Conflict
  /-- The place of the value of each column in the rows that are given. -/
  places : List (Option Nat)
  /-- The place of the number of the row. -/
  keyPlace : Option Nat
  /-- The rows; without any there is one with all the values that columns have by themselves. -/
  rows : Option Query
  resolutions : List Resolution

structure Updating where
  table : Table
  policy : Option Conflict
  /-- The new values by their places; the number of the row is behind the columns. -/
  changes : List (Nat × Expression)
  filter : Option Expression
  /-- Where the new values come from other tables, the rows with them: first what tells the row
  that is to be changed apart, then its new values. -/
  rows : Option Query := none
  /-- How many values tell a row apart there. -/
  keys : Nat := 0

structure Deletion where
  table : Table
  filter : Option Expression

inductive Step where
  | insert (insertion : Insertion)
  | update (updating : Updating)
  | delete (deletion : Deletion)
  | select (query : Query)

/-- A trigger that is ready to be run. -/
structure Program where
  name : String
  condition : Option Expression
  steps : List Step

/-- Making a change ready; the state is the programs that are ready. -/
abbrev Preparing := StateT (List Program) (Except DatabaseFault)

namespace Preparing

variable {α : Type}

def ofExcept (result : Except StatementFault α) : Preparing α :=
  match result with
  | .ok value => return value
  | .error fault => throw (.statement fault)

/-- The trigger fires for a change that is made at a time. The columns of an update matter. -/
def fires (trigger : TriggerDefinition) (time : TriggerTime) (event : TriggerEvent) : Bool :=
  (trigger.time = time || (trigger.time = .instead && time = .before)) &&
    match trigger.event, event with
    | .insert, .insert | .delete, .delete => true
    | .update [], .update _ => true
    | .update watched, .update changed =>
      watched.any fun name => changed.any (sameName name)
    | _, _ => false

/-- The columns of a row on its way into a table, or out of it. Only the number of the row leans
towards anything. -/
def movingColumns (table : Table) (columns : List NamedColumn) : List NamedColumn :=
  columns.zipIdx.map fun (column, place) =>
    if table.keyColumn = some place then column else { column with leaning := none }

/-- The scope of a trigger: the row before the change, and behind it the row after. -/
def triggerScope (catalog : Catalog) (table : Table) (event : TriggerEvent)
    (columns : List NamedColumn) : Scope :=
  let source (label : String) (place : Nat) : NamedSource :=
    { label, columns := movingColumns table columns, place, hasKeys := table.hasRowKeys
      isTable := true, apart := true }
  let width := columns.length + if table.hasRowKeys then 1 else 0
  let sources := match event with
    | .insert => [source "new" 0]
    | .delete => [source "old" 0]
    | .update _ => [source "old" 0, source "new" width]
  { catalog, levels := [{ depth := 0, sources, isTrigger := true }], depth := 1
    inTrigger := true, tellsDatabase := true }

def targetTable (scope : Scope) (name : String) : Preparing Table :=
  match Scope.table? scope.catalog name with
  | some table => return table
  | none => throw (.statement (scope.missingTable name))

/-- The columns of a table or a view. -/
def columnsOf (catalog : Catalog) (table : Table) : Preparing (List NamedColumn) := do
  match table.form with
  | .view names query =>
    let scope : Scope := { catalog, views := [table.name], tellsDatabase := true }
    let (_, columns) ← ofExcept (scope.resolveQuery query)
    ofExcept (Resolver.rename (.viewWidth table.name) columns names)
  | _ => return Scope.tableColumns table

/-- Rows of the table can be changed: it is none of the system, and a view has a trigger for it. -/
def checkModifiable (table : Table) (triggered : Bool) : Preparing Unit := do
  match table.form with
  | .view _ _ => if !triggered then throw (.statement (.changedView table.name))
  | .virtual module => throw (.statement (.missing .module module))
  | .stored => if table.root = 1 then throw (.statement (.notModifiable table.name))

/-- Columns that are made from each other in a circle; the last of them. -/
def loopColumn? (table : Table) : Option String :=
  let made := table.columns.zipIdx.filterMap fun (column, place) =>
    column.generated.map fun (value, _) => (place, column.name, value)
  let needs (value : Expression) (waiting : List Nat) : Bool :=
    (value.findPart? (fun
      | .slot _ place _ _ => if place ∈ waiting then some () else none
      | _ => none) Expression.depthLimit).isSome
  let settle (waiting : List (Nat × String × Expression)) : List (Nat × String × Expression) :=
    waiting.filter fun entry => needs entry.2.2 (waiting.map fun other => other.1)
  let stuck := made.foldl (fun waiting _ => settle waiting) made
  stuck.getLast?.map fun entry => entry.2.1

/-- The last fault in what a table asks of its rows. -/
def ruleFault? (catalog : Catalog) (table : Table) : Option DatabaseFault :=
  let generated := table.columns.filterMap fun column =>
    column.generated.bind fun (value, _) => value.strangeness?
  let loops := (loopColumn? table).toList.map StatementFault.generatedLoop
  let checks := table.checks.filterMap fun rule => rule.condition.strangeness?
  let indexes := table.indexes.flatMap fun index =>
    index.filter.toList.filterMap Expression.strangeness? ++
      index.terms.filterMap fun term => term.value.strangeness?
  let links := match Link.fromChild catalog table with
    | .error fault => [fault]
    | .ok _ => []
  (generated ++ loops ++ checks ++ indexes ++ links).getLast?.map DatabaseFault.statement

/-- A collation of an index that is not known. -/
def collationFault? (table : Table) : Option DatabaseFault :=
  table.indexes.findSome? fun index => index.terms.findSome? fun term =>
    if (Collation.ofName? term.collation).isSome then none
    else some (.statement (.missing .collation term.collation))

/-- The first of two faults, if there is any. -/
def orElse (first : Option DatabaseFault) (second : Preparing (Option DatabaseFault)) :
    Preparing (Option DatabaseFault) :=
  match first with
  | some fault => return some fault
  | none => second

def refuseIf (fault : Option DatabaseFault) : Preparing Unit :=
  match fault with
  | some fault => throw fault
  | none => return

/-- Names with the values that they are given, each with its own. -/
def spread : List String × Expression → List (String × Expression)
  | ([name], value) => [(name, value)]
  | (names, .vector values) => names.zip values
  | (names, value) => names.zipIdx.map fun (name, place) => (name, .component place value)

/-- A query that gives values for several columns gives one for each. -/
def checkAssigned (count : Nat) : Expression → Except StatementFault Unit
  | .component _ (.scalar query) =>
    let width := query.core.columns.length
    if width = count then .ok () else .error (.assignedWidth count width)
  | _ => .ok ()

/-- The place of a column that may be given a new value; the number of the row is behind all. -/
def assignedPlace (table : Table) (columns : List NamedColumn) (name : String) :
    Preparing Nat := do
  match columns.findIdx? fun column => sameName column.name name with
  | some place =>
    if (table.columns[place]?.bind Column.generated).isSome then
      throw (.statement (.writtenGenerated "UPDATE" name))
    return place
  | none =>
    if table.hasRowKeys ∧ Level.isKeyName name then return columns.length
    else throw (.statement (.missing .column name))

/-- New values by the places of their columns. -/
def assignments (scope : Scope) (table : Table) (columns : List NamedColumn)
    (changes : List (List String × Expression)) : Preparing (List (Nat × Expression)) := do
  let placed ← changes.mapM fun change => (spread change).mapM fun (name, value) => do
    let value ← ofExcept (scope.prepare value)
    ofExcept (checkAssigned change.1.length value)
    return (← assignedPlace table columns name, value)
  return placed.flatten

/-- The columns that tell the rows of a table or a view apart. -/
def keyPlaces (table : Table) (columns : List NamedColumn) : List Nat :=
  if table.isView then List.range columns.length
  else table.ownKey.getD [columns.length]

/-- The rows that an update finds in its table together with other sources, with the values that
the columns are given. -/
def updatingRows (scope : Scope) (table : Table) (columns : List NamedColumn)
    (changes : List (List String × Expression)) (sources : List Source)
    (filter : Option Expression) : Preparing Query := do
  let values := changes.flatMap fun change => (spread change).map fun entry => entry.2
  let counts := changes.flatMap fun change => change.1.map fun _ => change.1.length
  let keys := (keyPlaces table columns).map fun place =>
    Expression.slot scope.depth place none none
  let target : Source := { content := .table table.name, label := none }
  let others := match sources with
    | [source] => [source]
    | sources => [{ content := .joined sources, label := none }]
  let result (value : Expression) : ResultColumn := .one value none ""
  let (query, _) ← ofExcept (scope.prepareQuery
    { core := { columns := (keys ++ values).map result, sources := target :: others, filter } })
  let given := query.core.values.drop keys.length
  (counts.zip given).forM fun (count, value) => ofExcept (checkAssigned count value)
  let isTarget (source : Source) : Bool :=
    source.label.isNone &&
      match source.content with
      | .table name => sameName name table.name
      | _ => false
  if sources.any isTarget then
    throw (.statement (.domain
      ("target object/alias may not appear in FROM clause: " ++ table.name)))
  return query

/-- The names of the columns that an update changes. -/
def changedNames (columns : List NamedColumn) (changes : List (Nat × Expression)) : List String :=
  changes.filterMap fun (place, _) => columns[place]?.map NamedColumn.name

/-- The columns that the words about a conflict are about. -/
def resolutionTarget (scope : Scope) (table : Table) (terms : List KeyTerm) :
    Preparing (List Nat) := do
  let places ← terms.mapM fun term => do
    match ← ofExcept (scope.resolve term.value) with
    | .slot _ place _ _ | .collate (.slot _ place _ _) _ => return place
    | _ => return table.columns.length
  let fits (index : Index) : Bool :=
    let own := index.terms.filterMap IndexTerm.column
    index.unique.isSome && own.length = places.length && places.all (· ∈ own)
  if places = [] ∨ places = table.keyColumn.toList ∨ table.indexes.any fits then return places
  else throw (.statement (.domain
    "ON CONFLICT clause does not match any PRIMARY KEY or UNIQUE constraint"))

/-- The scope of an expression over a row of a table that is to be changed. -/
def rowScope (scope : Scope) (table : Table) (columns : List NamedColumn) : Scope :=
  scope.enter [NamedSource.ofColumns table.name columns table.hasRowKeys]

/-- What is done about a row that is there; the row that was to be added stands behind it. -/
def resolution (scope : Scope) (table : Table) (columns : List NamedColumn) (upsert : Upsert) :
    Preparing Resolution := do
  let width := columns.length + if table.hasRowKeys then 1 else 0
  let lonely := columns.map fun column => { column with leaning := none, collation := none }
  let inner := scope.enter
    [NamedSource.ofColumns table.name columns table.hasRowKeys,
     { label := "excluded", columns := lonely, place := width, hasKeys := table.hasRowKeys
       isTable := true, apart := true }]
  let places ← resolutionTarget inner table upsert.target
  match upsert.changes with
  | none => return { target := places, changes := none }
  | some (changes, filter) =>
    let changes ← assignments inner table columns changes
    return { target := places, changes := some (changes, ← ofExcept (filter.mapM inner.prepare)) }

mutual

/-- Make a change ready, with the triggers it fires. -/
def change (fuel : Nat) (scope : Scope) (target : Change) : Preparing Step :=
  match fuel with
  | 0 => throw (.statement .constructorLimit)
  | fuel + 1 => do
    match target with
    | .select query =>
      let query := if scope.inTrigger then { query with order := [] } else query
      let (query, _) ← ofExcept (scope.prepareQuery query)
      return .select query
    | .insert policy name columns rows upserts =>
      return .insert (← insertion fuel scope policy name.name columns rows upserts)
    | .update policy name changes sources filter => do
      let table ← targetTable scope name.name
      let columns ← columnsOf scope.catalog table
      let fired := table.triggers.any fun trigger =>
        match trigger.event with
        | .update _ => true
        | _ => false
      checkModifiable table fired
      let (changes, filter, rows) ← if sources.isEmpty then do
          let inner := rowScope scope table columns
          let changes ← assignments inner table columns changes
          pure (changes, ← ofExcept (filter.mapM inner.prepare), none)
        else do
          let given := changes.flatMap spread
          let changed ← given.mapM fun (name, value) => do
            return (← assignedPlace table columns name, value)
          pure (changed, none, some (← updatingRows scope table columns changes sources filter))
      let event := TriggerEvent.update (changedNames columns changes)
      let soft ← triggersFault fuel scope.catalog table .before event
      let soft := ruleFault? scope.catalog table <|> soft <|> collationFault? table
      refuseIf (← orElse soft (triggersFault fuel scope.catalog table .after event))
      let keys := (keyPlaces table columns).length
      return .update { table, policy, changes, filter, rows, keys }
    | .delete name filter => do
      let table ← targetTable scope name.name
      let columns ← columnsOf scope.catalog table
      checkModifiable table (table.triggers.any fun trigger => trigger.event = .delete)
      let inner := rowScope scope table columns
      let filter ← ofExcept (filter.mapM inner.prepare)
      let soft ← triggersFault fuel scope.catalog table .before .delete
      refuseIf (← orElse soft (triggersFault fuel scope.catalog table .after .delete))
      return .delete { table, filter }
termination_by structural fuel

def insertion (fuel : Nat) (scope : Scope) (policy : Option Conflict) (name : String)
    (columns : List String) (rows : Option Query) (upserts : List Upsert) : Preparing Insertion :=
  match fuel with
  | 0 => throw (.statement .constructorLimit)
  | fuel + 1 => do
    let table ← targetTable scope name
    let own ← columnsOf scope.catalog table
    checkModifiable table (table.triggers.any fun trigger => trigger.event = .insert)
    if table.counted then
      match scope.catalog.table? "sqlite_sequence" with
      | some counters =>
        if counters.columns.length ≠ 2 ∨ !counters.hasRowKeys then throw (.malformed 523)
      | none => throw (.malformed 523)
    let isMade (place : Nat) : Bool := (table.columns[place]?.bind Column.generated).isSome
    let targets ← columns.mapM fun column => do
      match own.findIdx? fun other => sameName other.name column with
      | some place =>
        if isMade place then throw (.statement (.writtenGenerated "INSERT into" column))
        return place
      | none =>
        if table.hasRowKeys ∧ Level.isKeyName column then return own.length
        else throw (.statement (.noColumnNamed name column))
    let resolved ← ofExcept (rows.mapM scope.prepareQuery)
    let given := (resolved.map fun entry => entry.2.length).getD 0
    let plain := (List.range own.length).filter fun place => !isMade place
    if rows.isSome then
      if columns ≠ [] then
        if given ≠ columns.length then throw (.statement (.valueCount given columns.length))
      else if given ≠ plain.length then
        throw (.statement (.tableWidth table.name plain.length given))
    let targets := if columns ≠ [] then targets else if rows.isSome then plain else []
    let places := (List.range own.length).map fun place => targets.findIdx? (· = place)
    let keyPlace := targets.findIdx? fun place =>
      place = own.length || (table.keyColumn = some place)
    let defaults := (table.columns.zip places).filterMap fun (column, place) =>
      if place.isSome then none else column.default.bind Expression.strangeness?
    let soft := defaults.getLast?.map DatabaseFault.statement
    let soft ← orElse soft (triggersFault fuel scope.catalog table .before .insert)
    let soft := ruleFault? scope.catalog table <|> soft <|> collationFault? table
    let resolutions ← upserts.mapM (resolution scope table own)
    refuseIf (← orElse soft (triggersFault fuel scope.catalog table .after .insert))
    return { table, policy, places, keyPlace, rows := resolved.map fun entry => entry.1,
             resolutions }
termination_by structural fuel

/-- Make the triggers ready that a change fires, and tell the first fault among them. -/
def triggersFault (fuel : Nat) (catalog : Catalog) (table : Table) (time : TriggerTime)
    (event : TriggerEvent) : Preparing (Option DatabaseFault) :=
  match fuel with
  | 0 => throw (.statement .constructorLimit)
  | fuel + 1 => do
    let fired := table.triggers.filter fun trigger => fires trigger time event
    let columns ← columnsOf catalog table
    fired.foldlM (fun fault trigger => do
      let known := (← get).any fun program => sameName program.name trigger.name.name
      if fault.isSome || known then return fault
      else
        tryCatch (do
          program fuel (triggerScope catalog table trigger.event columns) trigger
          return none) (fun fault => return some fault)) none
termination_by structural fuel

/-- Make a trigger ready. While that goes on it counts as ready itself. -/
def program (fuel : Nat) (scope : Scope) (trigger : TriggerDefinition) : Preparing Unit :=
  match fuel with
  | 0 => throw (.statement .constructorLimit)
  | fuel + 1 => do
    let name := trigger.name.name
    modify fun programs => { name, condition := none, steps := [] } :: programs
    let condition ← ofExcept (trigger.condition.mapM scope.prepare)
    let steps ← trigger.steps.mapM (change fuel scope)
    modify fun programs => programs.map fun program =>
      if sameName program.name name then { program with condition, steps } else program
termination_by structural fuel

end

/-- The steps that making ready may go down. -/
def depthLimit : Nat := 4000

end Preparing

/-- Make a change ready that is not a step of a trigger, with all programs it may need. -/
def Change.prepare (catalog : Catalog) (target : Change) :
    Except DatabaseFault (Step × List Program) :=
  (Preparing.change Preparing.depthLimit { catalog } target).run []

end SignalGraph.Database
