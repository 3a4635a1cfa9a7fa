import SignalGraph.Database.Change
import SignalGraph.Database.Schema

/-! New tables and indexes in a database. -/

set_option autoImplicit false

namespace SignalGraph.Database.Changing

/-- Add an entry to the schema. -/
def writeEntry (key : Int) (sort name table : String) (root : Nat) (text : Option String) :
    Changing Unit := do
  let fields : List Datum := [.text sort, .text name, .text table, .integer root,
    (text.map Datum.text).getD .null]
  paging (Paging.insertRow 1 ⟨key, Record.encode (← encoding) fields⟩)

def nextEntry : Changing Int := do
  return ((← ofPages fun pages => pages.lastKey? 1).map (· + 1)).getD 1

def addTable (table : Table) : Changing Unit :=
  modify fun work => { work with catalog := work.catalog.add table }

/-- Make a table, with an index for each rule that needs one. The statement is kept from the name
of the table on. -/
def createTable (definition : TableDefinition) (text : String) : Changing Unit := do
  let (table, indexes) ← ofStatement (Table.ofDefinition (← get).catalog false definition)
  let key ← nextEntry
  let root ← paging (Paging.createTree (if table.ownKey.isSome then .index else .table))
  let separate := indexes.filter fun index => !table.isOwn index
  let roots ← separate.zipIdx.mapM fun (index, place) => do
    let root ← paging (Paging.createTree .index)
    writeEntry (key + 1 + place) "index" index.name table.name root none
    return (index.name, root)
  writeEntry key "table" table.name table.name root (some ("CREATE TABLE " ++ text))
  let rooted (index : Index) : Index := { index with root := (roots.lookup index.name).getD root }
  addTable { table with root, indexes := table.indexes.map rooted }
  if table.counted ∧ ((← get).catalog.table? "sqlite_sequence").isNone then
    let root ← paging (Paging.createTree .table)
    let name := "sqlite_sequence"
    writeEntry (← nextEntry) "table" name name root
      (some "CREATE TABLE sqlite_sequence(name,seq)")
    let column (name : String) : Column := { name, type := "" }
    addTable { name, root, columns := [column "name", column "seq"] }

/-- Put all rows of a table into an index. -/
def fillIndex (table : Table) (index : Index) : Changing Unit := do
  let encoding ← encoding
  (← allRows table).forM fun row => do
    match ← indexKey? table index row with
    | none => return
    | some key =>
      if index.unique.isSome then
        if (← conflictIn table index row none).isSome then
          refuse (.violation .unique (toldTerms table index))
      paging (Paging.insertRecord encoding index.order index.root
        (key ++ table.indexTail index row))

def createIndex (table : Table) (definition : IndexDefinition) (text : String) :
    Changing Unit := do
  let index ← ofStatement (Table.indexOfDefinition (← get).catalog false table definition)
  let root ← paging (Paging.createTree .index)
  let index := { index with root }
  let start := if definition.unique then "CREATE UNIQUE INDEX " else "CREATE INDEX "
  writeEntry (← nextEntry) "index" index.name table.name root (some (start ++ text))
  fillIndex table index
  modify fun work => { work with
    catalog := work.catalog.change table.name fun table => table.withIndex index }

/-- The table that an index is asked for on, if the index is not there already. -/
def indexedTable? (catalog : Catalog) (absent : Bool) (definition : IndexDefinition) :
    Except StatementFault (Option Table) :=
  let name := definition.name.name
  match catalog.table? definition.table with
  | none => .error (.missing .table ("main." ++ definition.table))
  | some table =>
    match table.form with
    | .view _ _ => .error (.notIndexable "views")
    | .virtual _ => .error (.notIndexable "virtual tables")
    | .stored =>
      if table.name.toLower.startsWith "sqlite_" then
        .error (.notIndexable ("table " ++ table.name))
      else if (catalog.table? name).isSome then .error (.nameTaken .table name)
      else if (catalog.index? name).isSome then
        if absent then .ok none else .error (.present .index definition.name.written)
      else .ok (some table)

/-- The table is not there, and neither is an index of its name. -/
def isNewTable (catalog : Catalog) (absent : Bool) (name : WrittenName) :
    Except StatementFault Bool :=
  match catalog.table? name.name with
  | some table =>
    if absent then .ok false
    else .error (.present (if table.isView then .view else .table) name.written)
  | none =>
    if (catalog.index? name.name).isSome then .error (.nameTaken .index name.name) else .ok true

end SignalGraph.Database.Changing
