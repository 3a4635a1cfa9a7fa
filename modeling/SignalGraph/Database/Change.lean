import SignalGraph.Database.Evaluation
import SignalGraph.Database.Program

/-! Changes of rows, with all that comes with them: what columns have by themselves, the rules of
the table, its indexes, rows that others refer to, and triggers.

A trigger does not fire while it is running. The state outlives a fault, as what was changed
before it may be kept.
-/

set_option autoImplicit false

namespace SignalGraph.Database

/-- The counter of a table whose numbers never come back. -/
structure Counter where
  table : String
  /-- The number of its row in the table of counters. -/
  entry : Option Int
  start : Int
  last : Int

/-- What a change works on. -/
structure Work where
  pages : Pages
  catalog : Catalog
  now : Instant
  parameters : List Datum := []
  programs : List Program := []
  lastKey : Int := 0
  tally : Function.Tally := {}
  counters : List Counter := []
  /-- By how many more rows refer to rows that are not there. -/
  lacking : Int := 0
  /-- The triggers that are running. -/
  active : List String := []

abbrev Changing := ExceptT Stop (StateM Work)

namespace Changing

variable {α : Type}

def refuse (fault : DatabaseFault) : Changing α := throw (.fault fault .abort)

def world : Changing World := do
  let work ← get
  return { pages := work.pages, catalog := work.catalog, parameters := work.parameters
           around := { now := work.now, lastKey := work.lastKey, tally := work.tally }
           fired := !work.active.isEmpty }

def ofEvaluating (result : Evaluating α) : Changing α :=
  match result with
  | .ok value => return value
  | .error stop => throw stop

def evaluate (frame : Frame) (target : Expression) : Changing Datum := do
  ofEvaluating ((← world).evaluate frame target)

def ofPages (read : Pages → Except DatabaseFault α) : Changing α := do
  match read (← get).pages with
  | .ok value => return value
  | .error fault => refuse fault

/-- A page that belongs to the map of a file, as its head has it, is the root of a tree. -/
def hasFalseMap (pages : Pages) (catalog : Catalog) : Bool :=
  catalog.tables.any fun table =>
    pages.isMapPage table.root || table.indexes.any fun index => pages.isMapPage index.root

/-- Work on the pages. Where pages were taken or given back, the map of the file has changed. -/
def paging (work : Paging α) : Changing α := do
  let before := (← get).pages
  match work.run before with
  | .ok (value, pages) =>
    let same := pages.count = before.count ∧ pages.freeCount = before.freeCount
    if ¬same ∧ hasFalseMap pages (← get).catalog then refuse .broken
    modify fun state => { state with pages }
    return value
  | .error fault => refuse fault

def ofStatement (result : Except StatementFault α) : Changing α :=
  match result with
  | .ok value => return value
  | .error fault => refuse (.statement fault)

/-- A row of the statement that is running was changed. -/
def countRow : Changing Unit := modify fun work => { work with tally := work.tally.count }

/-- A statement is over. -/
def closeTally : Changing Unit := modify fun work => { work with tally := work.tally.close }

def encoding : Changing TextEncoding := do return (← get).pages.encoding

/-- Give up a row, or all, as a policy says. -/
def refuseBy (policy : Conflict) (fault : DatabaseFault) : Changing α :=
  match policy with
  | .ignore => throw .ignore
  | .replace => refuse fault
  | policy => throw (.fault fault policy)

/-- Go on if only the row at hand is left out. -/
def sparing (row : Changing Unit) : Changing Unit :=
  tryCatch row fun stop =>
    match stop with
    | .ignore => return
    | stop => throw stop

def frameOf (row : RowValues) : Frame := Frame.push {} row

/-- The row that is told apart by some values. -/
def findRow (table : Table) (identity : List Datum) : Changing (Option RowValues) := do
  let world ← world
  match ← ofEvaluating (world.rowAt table identity) with
  | some row => return some (← ofEvaluating (world.complete table row))
  | none => return none

/-- The values of the terms of an index for a row, unless the index leaves the row out. -/
def indexKey? (table : Table) (index : Index) (row : RowValues) :
    Changing (Option (List Datum)) := do
  let world := { ← world with timeless := some "an index", fired := false }
  let kept ← match index.filter with
    | some filter => ofEvaluating (world.holds (frameOf row) filter)
    | none => pure true
  if kept then
    let values ← index.terms.mapM fun term => do
      match term.column with
      | some place => return table.keptValue place (row.getD place .null)
      | none =>
        let value ← ofEvaluating (world.evaluate (frameOf row) term.value)
        return value.leanTo (term.value.leaning?.getD .blob)
    return some values
  else return none

/-- Put a row into the indexes of its table and into the table. -/
def writeRow (table : Table) (row : RowValues) : Changing Unit := do
  let encoding ← encoding
  table.indexes.forM fun index => do
    if !table.isOwn index then
      match ← indexKey? table index row with
      | some key => paging (Paging.insertRecord encoding index.order index.root
          (key ++ table.indexTail index row))
      | none => return
  match table.ownKey with
  | some key => paging (Paging.insertRecord encoding (table.keyOrder key) table.root
      (table.recordOfRow row))
  | none => paging (Paging.insertRow table.root
      ⟨table.keyOfRow row, Record.encode encoding (table.recordOfRow row)⟩)

/-- Take a row out of the indexes of its table, where it has to be, and out of the table. -/
def eraseRow (table : Table) (row : RowValues) : Changing Unit := do
  let encoding ← encoding
  table.indexes.forM fun index => do
    if !table.isOwn index then
      match ← indexKey? table index row with
      | some key =>
        let found ← paging (Paging.deleteRecord encoding index.order index.root
          (key ++ table.indexTail index row))
        if !found then refuse (.malformed 779)
      | none => return
  match table.ownKey with
  | some key =>
    let _ ← paging (Paging.deleteRecord encoding (table.keyOrder key) table.root
      (table.identity row))
  | none => paging (Paging.deleteRow table.root (table.keyOfRow row))

/-- A free number in the middle of a table that has the greatest one already. Only a few are
tried. -/
def freeKey (table : Table) : Changing Int := do
  let middle := greatestWord / 2 + 1
  let free ← ((List.range 100).map fun (n : Nat) => middle - n).findM? fun key => do
    return (← ofPages fun pages => pages.row? table.root key).isNone
  match free with
  | some key => return key
  | none => refuse .full

/-- The next number of a row: behind the last one, and behind the counter of the table. -/
def newKey (table : Table) : Changing Int := do
  let last ← ofPages fun pages => pages.lastKey? table.root
  let counter := (← get).counters.find? fun counter => counter.table = table.name
  if counter.any fun counter => last = some greatestWord ∨ greatestWord ≤ counter.last then
    refuse .full
  else if last = some greatestWord then freeKey table
  else
    let next := (last.map (· + 1)).getD 1
    let key := (counter.map fun counter => max next (counter.last + 1)).getD next
    count table key
    return key
where
  count (table : Table) (key : Int) : Changing Unit :=
    modify fun work => { work with counters := work.counters.map fun counter =>
      if counter.table = table.name then { counter with last := max counter.last key } else counter }

/-- The number of a row from a value that was given for it. -/
def givenKey (value : Datum) : Changing Int :=
  match value.leanTo .integer with
  | .integer key => return key
  | _ => refuse .wrongType

def leanRow (table : Table) (row : RowValues) : RowValues :=
  table.columns.zipIdx.foldl (fun row (column, place) =>
    if table.keyColumn = some place then row
    else row.setIfInBounds place ((row.getD place .null).leanTo (table.leaning column))) row

/-- A strict table takes only values of the types of its columns. -/
def checkTypes (table : Table) (row : RowValues) : Changing Unit := do
  if table.strict then
    table.columns.zipIdx.forM fun (column, place) => do
      let value := row.getD place .null
      let type := column.type.toUpper
      let fits := match value with
        | .null => true
        | .integer _ => type ∈ ["INT", "INTEGER", "REAL", "ANY"]
        | .real _ => type ∈ ["REAL", "ANY"]
        | .text _ => type ∈ ["TEXT", "ANY"]
        | .blob _ => type ∈ ["BLOB", "ANY"]
      if !fits then
        refuse (.violation .storage ("cannot store " ++ value.storageName ++ " value in " ++ type ++
          " column " ++ table.name ++ "." ++ column.name))

def hasGenerated (table : Table) : Bool := table.columns.any fun column => column.generated.isSome

/-- The value that a column has by itself. -/
def ownValue (column : Column) : Changing Datum :=
  match column.default with
  | some value => evaluate {} value
  | none => return .null

/-- Compute the columns that are made from others. -/
def generate (table : Table) (row : RowValues) : Changing RowValues := do
  if hasGenerated table then
    ofEvaluating ((← world).generate table true (leanRow table row))
  else return row

/-- The row without nulls where none may be. -/
def fillNulls (table : Table) (policy : Option Conflict) (row : RowValues) :
    Changing RowValues := do
  let columns := table.columns.zipIdx
  let isMade (entry : Column × Nat) : Bool := entry.1.generated.isSome
  let ordered := columns.filter (fun entry => !isMade entry) ++ columns.filter isMade
  let filled ← ordered.foldlM (fun row (column, place) => do
    match column.notNull with
    | none => return row
    | some own =>
      if table.keyColumn = some place ∨ !(row.getD place .null).isNull then return row
      else
        let policy := policy.getD own
        if policy = .replace ∧ column.default.isSome then
          return row.setIfInBounds place ((← ownValue column).leanTo (table.leaning column))
        else refuseBy policy (fault column)) row
  ordered.forM fun (column, place) => do
    let isLacking := column.notNull.isSome && table.keyColumn ≠ some place &&
      (filled.getD place .null).isNull
    if isLacking then refuse (fault column)
  return filled
where
  fault (column : Column) : DatabaseFault :=
    .violation .notNull (table.name ++ "." ++ column.name)

def checkRules (table : Table) (policy : Option Conflict) (row : RowValues) : Changing Unit := do
  let world := { ← world with timeless := some "a CHECK constraint", fired := false }
  table.checks.forM fun rule => do
    if !(← ofEvaluating (world.keeps (frameOf row) rule.condition)) then
      refuseBy (policy.getD .abort) (.violation .check rule.label)

/-- The columns of an index as they are told when it is violated. -/
def toldTerms (table : Table) (index : Index) : String :=
  if index.terms.any fun term => term.column.isNone then "index '" ++ index.name ++ "'"
  else String.intercalate ", " (index.terms.map fun term =>
    table.name ++ "." ++ table.columnName (term.column.getD 0))

/-- Another row that has the values of a row where no two may agree. -/
def conflictIn (table : Table) (index : Index) (row : RowValues) (self : Option (List Datum)) :
    Changing (Option (List Datum)) := do
  match ← indexKey? table index row with
  | none => return none
  | some key =>
    if key.any Datum.isNull then return none
    else
      let encoding ← encoding
      match ← ofPages fun pages => pages.record? encoding index.order index.root key with
      | none => return none
      | some record =>
        let other := if table.isOwn index then record.take key.length
          else table.identityIn index record
        return if self = some other then none else some other

def linksFrom (table : Table) : Changing (List Link) := do
  ofStatement (Link.fromChild (← get).catalog table)

/-- The rules that refer to a table, as far as they make sense. -/
def linksTo (table : Table) : Changing (List Link) := do
  if (← get).catalog.tables.any fun child => child.references.any fun rule =>
      sameName rule.reference.parent table.name then
    ofStatement (Link.toParent (← get).catalog table)
  else return []

/-- The row that others refer to is there, or is the row itself. -/
def parentIsThere (link : Link) (row : RowValues) (values : List Datum) : Changing Bool := do
  if sameName link.child.name link.parent.name ∧ link.refersTo values row then return true
  else
    match link.key, link.leaned values with
    | .number, [.integer key] =>
      return (← ofPages fun pages => pages.row? link.parent.root key).isSome
    | .number, _ => return false
    | .index index _, leaned =>
      let encoding ← encoding
      return (← ofPages fun pages => pages.record? encoding index.order index.root leaned).isSome

def addLacking (n : Int) : Changing Unit :=
  modify fun work => { work with lacking := work.lacking + n }

/-- There is something to count: nothing is taken away while no rows are lacking. -/
def isCounting (sign : Int) : Changing Bool := do return 0 < sign || 0 < (← get).lacking

/-- Count the rows that a row refers to and that are not there. -/
def countParents (table : Table) (row : RowValues) (sign : Int) : Changing Unit := do
  (← linksFrom table).forM fun link => do
    match link.values? row with
    | none => return
    | some values =>
      if ← isCounting sign then
        if !(← parentIsThere link row values) then addLacking sign

/-- The rows that refer to a row by a link. -/
def children (link : Link) (row : RowValues) : Changing (List RowValues) := do
  let rows ← ofEvaluating ((← world).tableRows link.child)
  let self := sameName link.child.name link.parent.name
  return rows.filter fun other =>
    ((link.values? other).any fun values => link.refersTo values row) &&
      !(self && link.child.identity other = link.parent.identity row)

def countChildren (table : Table) (row : RowValues) (sign : Int) : Changing Unit := do
  (← linksTo table).forM fun link => do
    if ← isCounting sign then addLacking (sign * ((← children link row).length : Int))

/-- All rows that a change of a table or a view looks at. -/
def allRows (table : Table) : Changing (List RowValues) := do
  match table.form with
  | .view _ _ =>
    let source : Source := { content := .table table.name, label := none }
    let query : Query := { core := { columns := [.all], sources := [source] } }
    let scope : Scope := { catalog := (← get).catalog, tellsDatabase := true }
    let (query, _) ← ofStatement (scope.prepareQuery query)
    ofEvaluating ((← world).rows {} query .every)
  | _ => ofEvaluating ((← world).tableRows table)

/-- The rows that a condition picks. -/
def picked (frame : Frame) (table : Table) (filter : Option Expression) :
    Changing (List RowValues) := do
  let rows ← allRows table
  match filter with
  | none => return rows
  | some filter =>
    rows.filterM fun row => do ofEvaluating ((← world).holds (frame.push row) filter)

/-- The rows that an update has found together with other sources: what tells each apart, and its
new values. A row of a table counts once, with what was found last, in the order of the table. -/
def matched (table : Table) (keys : Nat) (rows : List RowValues) :
    List (List Datum × List Datum) :=
  let pairs := rows.map fun row => (row.toList.take keys, row.toList.drop keys)
  if table.isView then pairs
  else
    let order : KeyOrder := match table.ownKey with
      | some key => table.keyOrder key
      | none => [(.binary, false)]
    let there := pairs.filter fun pair => (pair.1.head?.map Datum.isNull).getD true = false
    let latest := there.foldr (fun pair done =>
      if done.any fun other => order.compare pair.1 other.1 = .eq then done else pair :: done) []
    latest.mergeSort fun a b => order.compare a.1 b.1 ≠ .gt

/-- A conflict about some columns is settled by the first words that are about them. -/
def settlement? (resolutions : List Resolution) (columns : List Nat) : Option Resolution :=
  resolutions.find? fun resolution => resolution.target = [] ||
    (resolution.target.length = columns.length && resolution.target.all (· ∈ columns))

/-- The row with new values; the number of the row may be among them. -/
def assign (frame : Frame) (table : Table) (changes : List (Nat × Expression)) (row : RowValues) :
    Changing RowValues := do
  let width := table.columns.length
  let values ← changes.mapM fun (place, value) => do
    return (place, ← evaluate frame value)
  let changed := values.foldl (fun row (place, value) => row.setIfInBounds place value) row
  if table.hasRowKeys then
    let key? := values.findSome? fun (place, value) =>
      if place = width ∨ table.keyColumn = some place then some value else none
    match key? with
    | none => return changed
    | some value =>
      let key ← givenKey value
      let changed := match table.keyColumn with
        | some place => changed.setIfInBounds place (.integer key)
        | none => changed
      return changed.setIfInBounds width (.integer key)
  else return changed

mutual

/-- Run the triggers of a table that fire. -/
def fire (fuel : Nat) (table : Table) (time : TriggerTime) (event : TriggerEvent)
    (override : Option Conflict) (row : RowValues) : Changing Unit :=
  match fuel with
  | 0 => refuse (.statement .constructorLimit)
  | fuel + 1 =>
    (table.triggers.filter fun trigger => Preparing.fires trigger time event).forM fun trigger => do
      let work ← get
      let name := trigger.name.name
      match work.programs.find? fun program => sameName program.name name with
      | none => return
      | some program =>
        if name ∈ work.active then return
        else
          let frame := frameOf row
          let starts ← match program.condition with
            | some condition => do ofEvaluating ((← world).holds frame condition)
            | none => pure true
          if starts then
            let settle := modify fun (after : Work) =>
              { after with active := work.active, lastKey := work.lastKey
                           tally := work.tally.resume after.tally }
            let begin_ := modify fun work =>
              { work with active := name :: work.active
                          tally := { work.tally with running := 0 } }
            let run (step : Step) : Changing Unit := do
              runStep fuel frame override step
              match step with
              | .select _ => return
              | _ => closeTally
            begin_
            tryCatch (program.steps.forM run) fun stop => do
              settle
              throw stop
            settle
termination_by structural fuel

/-- Run one step, of a trigger or by itself. -/
def runStep (fuel : Nat) (frame : Frame) (override : Option Conflict) (step : Step) :
    Changing Unit :=
  match fuel with
  | 0 => refuse (.statement .constructorLimit)
  | fuel + 1 => do
    match step with
    | .select query =>
      let _ ← ofEvaluating ((← world).rows frame query .nothing)
    | .insert insertion =>
      let rows ← match insertion.rows with
        | some query => do ofEvaluating ((← world).rows frame query .passing)
        | none => pure [#[]]
      let policy := override <|> insertion.policy
      rows.forM fun given => sparing (insertRow fuel frame policy insertion given)
    | .update updating =>
      let policy := override <|> updating.policy
      let table := updating.table
      match updating.rows with
      | none =>
        (← picked frame table updating.filter).forM fun row =>
          sparing (updateRow fuel frame policy table updating.changes row #[])
      | some query =>
        let found ← ofEvaluating ((← world).rows frame query .every)
        (matched table updating.keys found).forM fun (key, values) => do
          let changes := List.zipWith (fun (place, _) value => (place, Expression.literal value))
            updating.changes values
          match ← (if table.isView then pure (some key.toArray) else findRow table key) with
          | some row => sparing (updateRow fuel frame policy table changes row #[])
          | none => return
    | .delete deletion =>
      (← picked frame deletion.table deletion.filter).forM fun row =>
        sparing (deleteRow fuel override deletion.table row)
termination_by structural fuel

/-- Add a row. -/
def insertRow (fuel : Nat) (frame : Frame) (policy : Option Conflict) (insertion : Insertion)
    (given : RowValues) : Changing Unit :=
  match fuel with
  | 0 => refuse (.statement .constructorLimit)
  | fuel + 1 => do
    let table := insertion.table
    let values ← (insertion.places.zipIdx).mapM fun (place, index) => do
      match place with
      | some place => return given.getD place .null
      | none =>
        match table.columns[index]? with
        | some column => ownValue column
        | none => return .null
    let row : RowValues := values.toArray
    let keyValue := (insertion.keyPlace.map fun place => given.getD place .null).getD .null
    let withKey (row : RowValues) (key : Int) : RowValues :=
      if table.hasRowKeys then
        (match table.keyColumn with
          | some place => row.setIfInBounds place (.integer key)
          | none => row).push (.integer key)
      else row
    if table.triggers.any fun trigger => Preparing.fires trigger .before .insert then
      let key ← if keyValue.isNull ∨ !table.hasRowKeys then pure (-1) else givenKey keyValue
      let leaned := if table.isView then row else leanRow table row
      if !table.isView then checkTypes table (withKey leaned key)
      fire fuel table .before .insert policy (← generate table (withKey leaned key))
    if !table.isView then
      let key ← if !table.hasRowKeys then pure 0
        else if keyValue.isNull then newKey table
        else do
          let key ← givenKey keyValue
          newKey.count table key
          pure key
      let row ← generate table (leanRow table (withKey row key))
      let row ← fillNulls table policy row
      if !table.checks.isEmpty then
        checkTypes table row
        checkRules table policy row
      let isGiven := insertion.keyPlace.isSome
      settleConflicts fuel frame policy insertion.resolutions table row isGiven none
      checkTypes table row
      countParents table row 1
      countChildren table row (-1)
      writeRow table row
      countRow
      if table.hasRowKeys then modify fun work => { work with lastKey := key }
      fire fuel table .after .insert policy row
termination_by structural fuel

/-- See that no other row has the number of a row, or values that no two rows may share. Rows that
do may have to go. -/
def settleConflicts (fuel : Nat) (frame : Frame) (policy : Option Conflict)
    (resolutions : List Resolution) (table : Table) (row : RowValues) (checksKey : Bool)
    (self : Option (List Datum)) : Changing Unit :=
  match fuel with
  | 0 => refuse (.statement .constructorLimit)
  | fuel + 1 => do
    let settle (other : List Datum) (columns : List Nat) (own : Conflict) (fault : DatabaseFault) :
        Changing Unit := do
      match settlement? resolutions columns with
      | some resolution =>
        match resolution.changes, ← findRow table other with
        | some (changes, filter), some old =>
          let inner := frame.push (old ++ row)
          let applies ← match filter with
            | some filter => do ofEvaluating ((← world).holds inner filter)
            | none => pure true
          if applies then updateRow fuel frame none table changes old row
          throw .ignore
        | _, _ => throw .ignore
      | none =>
        match policy.getD own with
        | .replace =>
          match ← findRow table other with
          | some old => removeRow fuel table old
          | none => refuse .broken
        | policy => refuseBy policy fault
    let checkKey : Changing Unit := do
      let key := table.identity row
      if checksKey ∧ table.hasRowKeys ∧ self ≠ some key then
        if (← findRow table key).isSome then
          let fault := match table.keyColumn with
            | some place => DatabaseFault.violation .primaryKey
                (table.name ++ "." ++ table.columnName place)
            | none => .violation .rowKey (table.name ++ ".rowid")
          settle key (table.keyColumn.toList) table.keyPolicy fault
    let isLate := table.keyPolicy = .replace && policy.isNone && !table.indexes.isEmpty
    if !isLate then checkKey
    table.indexes.forM fun index => do
      match index.unique with
      | none => return
      | some own =>
        match ← conflictIn table index row self with
        | none => return
        | some other =>
          let constraint := if index.origin = .primaryKey then Constraint.primaryKey else .unique
          settle other (index.terms.filterMap IndexTerm.column) own
            (.violation constraint (toldTerms table index))
    if isLate then checkKey
termination_by structural fuel

/-- Change a row. What stands behind it in the frame is another row that the new values may come
from. -/
def updateRow (fuel : Nat) (frame : Frame) (policy : Option Conflict) (table : Table)
    (changes : List (Nat × Expression)) (found behind : RowValues) : Changing Unit :=
  match fuel with
  | 0 => refuse (.statement .constructorLimit)
  | fuel + 1 => do
    let names := changes.filterMap fun (place, _) => table.columns[place]?.map Column.name
    let event := TriggerEvent.update names
    let newFrom (old : RowValues) : Changing RowValues := do
      let row ← assign (frame.push (old ++ behind)) table changes old
      if table.isView then return row else generate table (leanRow table row)
    let before := table.triggers.any fun trigger => Preparing.fires trigger .before event
    if before then
      let new ← newFrom found
      fire fuel table .before event policy (found ++ new)
    if !table.isView then
      let old? ← if before then findRow table (table.identity found) else pure (some found)
      match old? with
      | none => return
      | some old =>
        let row ← newFrom old
        let row ← fillNulls table policy row
        if !table.checks.isEmpty then
          checkTypes table row
          checkRules table policy row
        settleConflicts fuel frame policy [] table row true (some (table.identity old))
        checkTypes table row
        countParents table old (-1)
        countChildren table old 1
        eraseRow table old
        countParents table row 1
        countChildren table row (-1)
        writeRow table row
        countRow
        actOnChildren fuel table true old (some row)
        fire fuel table .after event policy (old ++ row)
termination_by structural fuel

/-- Take a row away, with the triggers that fire. -/
def deleteRow (fuel : Nat) (override : Option Conflict) (table : Table) (found : RowValues) :
    Changing Unit :=
  match fuel with
  | 0 => refuse (.statement .constructorLimit)
  | fuel + 1 => do
    let before := table.triggers.any fun trigger => Preparing.fires trigger .before .delete
    if before then fire fuel table .before .delete override found
    if !table.isView then
      let old? ← if before then findRow table (table.identity found) else pure (some found)
      match old? with
      | none => return
      | some old =>
        removeRow fuel table old
        countRow
        fire fuel table .after .delete override old
termination_by structural fuel

/-- Take a row away without its triggers. -/
def removeRow (fuel : Nat) (table : Table) (old : RowValues) : Changing Unit :=
  match fuel with
  | 0 => refuse (.statement .constructorLimit)
  | fuel + 1 => do
    countParents table old (-1)
    countChildren table old 1
    eraseRow table old
    actOnChildren fuel table false old none
termination_by structural fuel

/-- Do to the rows that refer to a row what their rules say, now that it is gone or another. -/
def actOnChildren (fuel : Nat) (table : Table) (isUpdate : Bool) (old : RowValues)
    (new : Option RowValues) : Changing Unit :=
  match fuel with
  | 0 => refuse (.statement .constructorLimit)
  | fuel + 1 => do
    (← linksTo table).forM fun link => do
      let reference := link.rule.reference
      let action := if isUpdate then reference.onUpdate else reference.onDelete
      let own (row : RowValues) : List Datum :=
        link.parentColumns.map fun place => row.getD place .null
      let stays := new.any fun new => own new = own old
      if action ≠ .none ∧ ¬stays then
        let before := (← get).tally
        modify fun work => { work with tally := { before with running := 0 } }
        (← children link old).forM fun child => do
          let columns := match link.key with
            | .number => link.rule.columns
            | .index _ columns => columns
          let set_ (values : List Expression) : Changing Unit :=
            updateRow fuel {} none link.child (columns.zip values) child #[]
          match action with
          | .restrict => refuse (.violation .foreignKey "")
          | .setNull => set_ (columns.map fun _ => .literal .null)
          | .setDefault => set_ (columns.map fun place =>
              ((link.child.columns[place]?).bind Column.default).getD (.literal .null))
          | .cascade =>
            match new with
            | some new => set_ ((own new).map Expression.literal)
            | none => deleteRow fuel none link.child child
          | .none => return
        closeTally
        modify fun work => { work with tally := before.resume work.tally }
termination_by structural fuel

end

def depthLimit : Nat := 4000

/-- The tables with counters that a step adds rows to. -/
def countedTables (steps : List Step) : List Table :=
  steps.filterMap fun step =>
    match step with
    | .insert insertion => if insertion.table.counted then some insertion.table else none
    | _ => none

/-- Read the counters of tables. -/
def readCounters (tables : List Table) : Changing Unit := do
  match (← get).catalog.table? "sqlite_sequence" with
  | none => return
  | some held =>
    tables.forM fun table => do
      if !((← get).counters.any fun counter => counter.table = table.name) then
        let rows ← ofEvaluating ((← world).tableRows held)
        let found := rows.find? fun row => row.getD 0 .null = .text table.name
        let last := (found.map fun row => (row.getD 1 .null).toInt).getD 0
        let counter : Counter :=
          { table := table.name, entry := found.map held.keyOfRow, start := last, last }
        modify fun work => { work with counters := counter :: work.counters }

/-- Write the counters that have gone on. -/
def writeCounters : Changing Unit := do
  match (← get).catalog.table? "sqlite_sequence" with
  | none => return
  | some held =>
    (← get).counters.forM fun counter => do
      if counter.start < counter.last then
        let payload := Record.encode (← encoding) [.text counter.table, .integer counter.last]
        match counter.entry with
        | some key =>
          paging (Paging.deleteRow held.root key)
          paging (Paging.insertRow held.root ⟨key, payload⟩)
        | none =>
          let key := ((← ofPages fun pages => pages.lastKey? held.root).map (· + 1)).getD 1
          paging (Paging.insertRow held.root ⟨key, payload⟩)

/-- Run a change that is ready. -/
def perform (step : Step) : Changing Unit := do
  let programs := (← get).programs
  readCounters (countedTables (step :: programs.flatMap Program.steps))
  runStep depthLimit {} none step
  writeCounters
  closeTally
  if 0 < (← get).lacking then refuse (.violation .foreignKey "")

end Changing

end SignalGraph.Database
