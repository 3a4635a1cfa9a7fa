import SignalGraph.Database.Creation

/-! An open database, and statements run on it one after another.

A statement that fails leaves nothing behind, unless a trigger asks to keep what was done.
-/

set_option autoImplicit false

namespace SignalGraph.Database

structure Connection where
  pages : Pages
  catalog : Catalog
  now : Instant
  /-- The number of the row that was added last. -/
  lastKey : Int := 0
  tally : Function.Tally := {}

namespace Connection

/-- Open a database. It keeps a log from now on, and if it did not do so yet that is a change. -/
def ofFiles (files : DatabaseFiles) (now : Instant) : Except DatabaseFault Connection := do
  let pages ← Pages.ofFiles files
  let catalog ← Catalog.ofPages pages
  if !pages.hasLog files then
    if pages.isReadOnly then throw .readOnly
    pages.checkShrinking
  return { pages, catalog, now }

/-- The same database on a connection on which nothing was done yet. -/
def anew (connection : Connection) : Connection := { connection with lastKey := 0, tally := {} }

/-- The text of a statement from the token at a place on, up to its end. -/
def textFrom (text : String) (place : Nat) : String :=
  let tokens := (Token.ofText text).takeWhile fun token => !token.isSign ";"
  let start := (tokens[place]?.map fun token => token.start).getD 0
  let stop := (tokens.getLast?.map fun token => token.stop).getD 0
  String.ofList ((text.toList.drop start).take (stop - start))

/-- What a statement does to the database, after it was made ready. -/
def action (connection : Connection) (text : String) (statement : Statement) :
    Except DatabaseFault (Option (List Program × Changing Unit)) := do
  let told {α : Type} (result : Except StatementFault α) : Except DatabaseFault α :=
    result.mapError DatabaseFault.statement
  match statement with
  | .createTable absent definition =>
    let place := if absent then 5 else 2
    if ← told (Changing.isNewTable connection.catalog absent definition.name) then
      return some ([], Changing.createTable definition (textFrom text place))
    else return none
  | .createIndex absent definition =>
    let place := (if absent then 5 else 2) + if definition.unique then 1 else 0
    match ← told (Changing.indexedTable? connection.catalog absent definition) with
    | some table =>
      let _ ← told (Table.indexOfDefinition connection.catalog false table definition)
      return some ([], Changing.createIndex table definition (textFrom text place))
    | none => return none
  | .change change =>
    let (step, programs) ← change.prepare connection.catalog
    return some (programs, Changing.perform step)
  | _ => throw .unsupported

/-- Run a statement that changes something. -/
def execute (connection : Connection) (text : String) (parameters : List Datum) :
    Except DatabaseFault Unit × Connection :=
  let ready : Except DatabaseFault (Option (List Program × Changing Unit)) := do
    let statement ← (Statement.ofText text).mapError DatabaseFault.statement
    match ← connection.action text statement with
    | some ready => if connection.pages.isReadOnly then throw .readOnly else return some ready
    | none => return none
  match ready with
  | .error fault => (.error fault, connection)
  | .ok none => (.ok (), connection)
  | .ok (some (programs, change)) =>
    let work : Work :=
      { pages := connection.pages, catalog := connection.catalog, now := connection.now
        parameters, programs, lastKey := connection.lastKey, tally := connection.tally }
    let (result, after) := (ExceptT.run change).run work
    let kept := { connection with
      pages := after.pages, catalog := after.catalog, lastKey := after.lastKey
      tally := { after.tally with running := 0 } }
    match result with
    | .ok () => (.ok (), kept)
    | .error .ignore => (.ok (), kept)
    | .error (.fault fault .fail) =>
      if 0 < after.lacking then (.error (.violation .foreignKey ""), connection)
      else (.error fault, kept)
    | .error (.fault fault _) => (.error fault, connection)

/-- The rows of a query. -/
def query (connection : Connection) (text : String) : Except DatabaseFault (List (List Datum)) := do
  match ← (Statement.ofText text).mapError DatabaseFault.statement with
  | .change change =>
    match ← change.prepare connection.catalog with
    | (.select query, _) =>
      let world : World := { pages := connection.pages, catalog := connection.catalog
                             around := { now := connection.now, lastKey := connection.lastKey
                                         tally := connection.tally } }
      match world.rows {} query .every with
      | .ok rows => return rows.map Array.toList
      | .error (.fault fault _) => throw fault
      | .error .ignore => return []
    | _ => throw .unsupported
  | _ => throw .unsupported

end Connection

end SignalGraph.Database
