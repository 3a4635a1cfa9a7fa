import SignalGraph.Database.Definition
import SignalGraph.Database.Grammar.Statement
import SignalGraph.Database.Opening

/-! The schema of a database: entries that name tables, indexes, views and triggers, each with the
statement that made it.

The entries are read one after another. The first one that does not fit makes the database
malformed, with what is wrong about it.
-/

set_option autoImplicit false

namespace SignalGraph.Database

/-- What the schema tells about one thing; a part may be empty. -/
structure SchemaEntry where
  sort : Option String
  name : Option String
  table : Option String
  root : Option String
  text : Option String

namespace SchemaEntry

def ofRecord (record : List Datum) : SchemaEntry :=
  let part (place : Nat) : Option String := (record.getD place .null).text?
  ⟨part 0, part 1, part 2, part 3, part 4⟩

/-- A page number of four bytes. -/
def rootOf? (text : String) : Option Nat :=
  (Numeral.digits? text.toList).filter (· < power 2 32)

/-- The statement agrees with the entry about what it makes. -/
def agrees (entry : SchemaEntry) (sort name table : String) : Bool :=
  let same (part : Option String) (told : String) : Bool := part.any (sameName told)
  same entry.sort sort && same entry.name name && same entry.table table

/-- The fault of an entry: its name, and perhaps what is wrong. -/
def fault (entry : SchemaEntry) (detail : String) : DatabaseFault :=
  .badEntry (entry.name.getD "?") detail

/-- What is wrong with an entry that its statement does not fit. -/
abbrev Reading := Except String

def told {α : Type} (result : Except StatementFault α) : Reading α :=
  result.mapError StatementFault.message

/-- A new table has a name of its own, and the entry tells the same name. -/
def checkTable (catalog : Catalog) (entry : SchemaEntry) (root : Nat) (absent : Bool)
    (name : WrittenName) : Reading Unit := do
  if root = 1 then throw ""
  if name.qualified then throw "corrupt database"
  if !entry.agrees "table" name.name name.name then throw ""
  match catalog.table? name.name with
  | some other =>
    if !absent then told (.error (.present (if other.isView then .view else .table) name.written))
  | none =>
    if (catalog.index? name.name).isSome then told (.error (.nameTaken .index name.name))

def readTable (catalog : Catalog) (root : Nat) (definition : TableDefinition) :
    Reading Catalog := do
  if (catalog.table? definition.name.name).isSome then return catalog
  else
    let (table, _) ← told (Table.ofDefinition catalog true definition)
    let own (index : Index) : Index :=
      if table.ownKey.isSome ∧ index.origin = .primaryKey then { index with root } else index
    return catalog.add { table with root, indexes := table.indexes.map own }

/-- A view or a table that is held elsewhere. -/
def readForm (catalog : Catalog) (entry : SchemaEntry) (root : Nat) (sort : String)
    (name : WrittenName) (form : TableForm) : Reading Catalog := do
  if !entry.agrees sort name.name name.name ∨ (sort = "view" ∧ root ≠ 0) then throw ""
  match catalog.table? name.name with
  | some other =>
    told (.error (.present (if other.isView then .view else .table) name.written))
  | none =>
    if (catalog.index? name.name).isSome then told (.error (.nameTaken .index name.name))
    else return catalog.add { name := name.name, form }

def readIndex (catalog : Catalog) (entry : SchemaEntry) (root : Nat) (absent : Bool)
    (definition : IndexDefinition) : Reading Catalog := do
  match Scope.table? catalog definition.table with
  | none => told (.error (.missing .table ("main." ++ definition.table)))
  | some table =>
    match table.form with
    | .view _ _ => told (.error (.notIndexable "views"))
    | .virtual _ => told (.error (.notIndexable "virtual tables"))
    | .stored =>
      if !entry.agrees "index" definition.name.name table.name then throw ""
      if (catalog.index? definition.name.name).isSome then
        if absent then return catalog else told (.error (.present .index definition.name.written))
      else
        let index ← told (Table.indexOfDefinition catalog true table definition)
        if table.indexes.any fun other => other.root = root then throw "invalid rootpage"
        return catalog.change table.name fun table => table.withIndex { index with root }

def timeWord : TriggerTime → String
  | .before => "BEFORE"
  | .after => "AFTER"
  | .instead => "INSTEAD OF"

/-- A new trigger stands on a table or a view that can have it. -/
def checkTrigger (catalog : Catalog) (entry : SchemaEntry) (definition : TriggerDefinition) :
    Reading Unit := do
  if definition.name.qualified then throw "corrupt database"
  match Scope.table? catalog definition.table with
  | none => told (.error (.missing .table ("main." ++ definition.table)))
  | some table =>
    match table.form with
    | .virtual _ => throw "cannot create triggers on virtual tables"
    | _ =>
      if !entry.agrees "trigger" definition.name.name table.name then throw ""
      if catalog.hasTrigger definition.name.name then
        told (.error (.present .trigger definition.name.written))
      if table.name.toLower.startsWith "sqlite_" then
        throw "cannot create trigger on system table"
      if table.isView != (definition.time = .instead) then
        told (.error (.triggerPlace (timeWord definition.time)
          (if table.isView then "view" else "table") definition.table))

/-- The name that a statement gives to what it makes has the database in front. -/
def isQualified : Statement → Bool
  | .createTable _ definition => definition.name.qualified
  | .createTableFrom name _ | .createView name _ _ | .createVirtual name _ => name.qualified
  | .createIndex _ definition => definition.name.qualified
  | .createTrigger definition => definition.name.qualified
  | .change _ => false

/-- What the statement of an entry makes. Some faults show before all of it is read. -/
def readStatement (catalog : Catalog) (entry : SchemaEntry) (root : Nat) (text : String) :
    Reading Catalog := do
  match Statement.announced? text with
  | some (.table absent name) => checkTable catalog entry root absent name
  | some (.trigger trigger) => checkTrigger catalog entry trigger
  | none => pure ()
  let statement ← told (Statement.ofText text)
  if isQualified statement then throw "corrupt database"
  match statement with
  | .createTable _ definition => readTable catalog root definition
  | .createTableFrom _ _ | .change _ => throw ""
  | .createIndex absent definition => readIndex catalog entry root absent definition
  | .createView name columns query =>
    if (Token.ofText text).any fun token => token.kind = .parameter then
      throw "parameters are not allowed in views"
    readForm catalog entry root "view" name (.view columns query)
  | .createTrigger definition =>
    return catalog.change definition.table fun table =>
      { table with triggers := definition :: table.triggers }
  | .createVirtual name module => readForm catalog entry root "table" name (.virtual module)

/-- The root of an index that a rule of its table made. -/
def readRoot (catalog : Catalog) (entry : SchemaEntry) (pages : Nat) : Reading Catalog := do
  match entry.name.bind catalog.index? with
  | none => throw "orphan index"
  | some (table, index) =>
    let root := (entry.root.bind rootOf?).getD 0
    let taken := table.indexes.any fun other => other.root = root && !sameName other.name index.name
    if root < 2 ∨ pages < root ∨ taken then throw "invalid rootpage"
    return catalog.change table.name fun table =>
      { table with indexes := table.indexes.map fun other =>
          if sameName other.name index.name then { other with root } else other }

def isCreation (text : String) : Bool :=
  (text.toList.take 2).map Char.toLower = ['c', 'r']

/-- The catalog with one more entry. -/
def read (pages : Nat) (catalog : Catalog) (entry : SchemaEntry) : Reading Catalog := do
  match entry.root with
  | none => throw ""
  | some rootText =>
    let text := entry.text.getD ""
    if isCreation text then
      match (rootOf? rootText).filter (· ≤ pages) with
      | some root => entry.readStatement catalog root text
      | none => throw "invalid rootpage"
    else if entry.name.isNone ∨ text ≠ "" then throw ""
    else entry.readRoot catalog pages

end SchemaEntry

namespace Catalog

/-- The catalog of a database. -/
def ofPages (pages : Pages) : Except DatabaseFault Catalog := do
  if 4 < pages.schemaFormat then throw .unsupported
  let rows ← pages.rows? .table 1
  rows.foldlM (fun catalog row =>
    match Record.decode? pages.encoding row.payload with
    | none => .error .broken
    | some record =>
      let entry := SchemaEntry.ofRecord record
      (entry.read pages.count catalog).mapError entry.fault) {}

end Catalog

end SignalGraph.Database
