import SignalGraph.Database.Connection

/-! Bringing a database up to date. A migration makes what a version of the tables adds, and the
database keeps a list of the migrations that were applied, with a sum over the text of each.

A list that tells of anything but the migrations that there are, in full and as they are, stops
everything.
-/

set_option autoImplicit false

namespace SignalGraph

open Database (Datum DatabaseFault)

structure Migration where
  version : Int
  description : String
  statements : List String
  /-- The sum over the text, in digits of base sixteen. -/
  sum : String

/-- Why a database is not brought up to date. -/
inductive MigrationFailure where
  | bookkeeping (fault : DatabaseFault)
  /-- A column of the list holds another type than the one it is read as. -/
  | wrongType (column : Nat) (expected found : String)
  | unfinished (version : Int)
  | unknown (version : Int)
  | altered (version : Int)
  | statement (version : Int) (fault : DatabaseFault)
  deriving DecidableEq

def MigrationFailure.message : MigrationFailure → String
  | bookkeeping fault =>
    "while executing migrations: error returned from database: " ++ fault.message
  | wrongType column expected found =>
    s!"while executing migrations: error occurred while decoding column {column}: " ++
      s!"mismatched types; Rust type {expected} is not compatible with SQL type \x60{found}\x60"
  | unfinished version =>
    s!"migration {version} is partially applied; fix and remove row from " ++
      "\x60_sqlx_migrations\x60 table"
  | unknown version =>
    s!"migration {version} was previously applied but is missing in the resolved migrations"
  | altered version => s!"migration {version} was previously applied but has been modified"
  | statement version fault =>
    s!"while executing migration {version}: error returned from database: " ++ fault.message

namespace Migration

/-- The table of strategies, and one of settings beside it. -/
def strategies : Migration where
  version := 20250101000000
  description := "create strategies"
  statements := [
    String.intercalate "\n" [
      "CREATE TABLE IF NOT EXISTS strategies (",
      "    id INTEGER PRIMARY KEY AUTOINCREMENT,",
      "    name TEXT NOT NULL,",
      "    description TEXT NOT NULL DEFAULT '',",
      "    is_public INTEGER NOT NULL DEFAULT 0,",
      "    document_json TEXT NOT NULL,",
      "    content_hash TEXT NOT NULL,",
      "    created_at TEXT NOT NULL DEFAULT (strftime('%Y-%m-%dT%H:%M:%fZ', 'now')),",
      "    updated_at TEXT NOT NULL DEFAULT (strftime('%Y-%m-%dT%H:%M:%fZ', 'now'))",
      ")"],
    "CREATE INDEX IF NOT EXISTS idx_strategies_updated_at ON strategies (updated_at)",
    String.intercalate "\n" [
      "CREATE TABLE IF NOT EXISTS editor_settings (",
      "    key TEXT PRIMARY KEY NOT NULL,",
      "    value TEXT NOT NULL",
      ")"]]
  sum := "8303d2bf702cf6803a91a07874808aa61d3e1221cc0a4300" ++
    "ca1e5a9f2941016dc7ad63f4a4f91c2b62a81213f4c398ba"

def all : List Migration := [strategies]

/-- The list of applied migrations. -/
def listStatement : String :=
  String.intercalate "\n" [
    "CREATE TABLE IF NOT EXISTS _sqlx_migrations (",
    "    version BIGINT PRIMARY KEY,",
    "    description TEXT NOT NULL,",
    "    installed_on TIMESTAMP NOT NULL DEFAULT CURRENT_TIMESTAMP,",
    "    success BOOLEAN NOT NULL,",
    "    checksum BLOB NOT NULL,",
    "    execution_time BIGINT NOT NULL",
    ");"]

def sumBytes (migration : Migration) : List UInt8 := Database.Literal.bytes migration.sum.toList

/-- The type of a value in the list, as it is told. -/
def typeName : Datum → String
  | .null => "NULL"
  | .integer _ => "INTEGER"
  | .real _ => "REAL"
  | .text _ => "TEXT"
  | .blob _ => "BLOB"

def readVersion (value : Datum) : Except MigrationFailure Int :=
  match value with
  | .integer n => .ok n
  | .null => .ok 0
  | value => .error (.wrongType 0 "\x60i64\x60 (as SQL type \x60INTEGER\x60)" (typeName value))

def readSum (value : Datum) : Except MigrationFailure (List UInt8) :=
  match value with
  | .null => .ok []
  | .text _ | .blob _ => .ok value.bytes
  | value => .error (.wrongType 1 "\x60alloc::vec::Vec<u8>\x60 (as SQL type \x60BLOB\x60)"
      (typeName value))

/-- The versions and sums of the migrations that were applied. -/
def applied (connection : Database.Connection) : Except MigrationFailure (List (Int × List UInt8)) := do
  let rows ← (connection.query "SELECT version, checksum FROM _sqlx_migrations ORDER BY version"
    ).mapError .bookkeeping
  rows.mapM fun row => do
    let version ← readVersion (row.getD 0 .null)
    return (version, ← readSum (row.getD 1 .null))

/-- The first migration that was begun and not finished. -/
def unfinished? (connection : Database.Connection) : Except MigrationFailure (Option Int) := do
  let rows ← (connection.query ("SELECT version FROM _sqlx_migrations WHERE success = false " ++
    "ORDER BY version LIMIT 1")).mapError .bookkeeping
  match rows with
  | [] => return none
  | row :: _ => return some (← readVersion (row.getD 0 .null))

/-- The list of what was applied agrees with the migrations. The ones that are left are told. -/
def remaining (applied : List (Int × List UInt8)) (migrations : List Migration) :
    Except MigrationFailure (List Migration) := do
  applied.forM fun (version, _) =>
    if migrations.any fun migration => migration.version = version then pure ()
    else throw (.unknown version)
  migrations.filterM fun migration =>
    match (applied.filter fun entry => entry.1 = migration.version).getLast? with
    | some (version, sum) =>
      if sum = migration.sumBytes then return false else throw (.altered version)
    | none => return true

/-- Run a statement, and tell a fault as a failure. -/
def step (connection : Database.Connection) (text : String) (parameters : List Datum)
    (failure : DatabaseFault → MigrationFailure) : Except MigrationFailure Database.Connection :=
  match connection.execute text parameters with
  | (.ok (), connection) => .ok connection
  | (.error fault, _) => .error (failure fault)

/-- Apply a migration and put it on the list, both or none. -/
def apply (connection : Database.Connection) (migration : Migration) :
    Except MigrationFailure Database.Connection := do
  let connection ← migration.statements.foldlM (fun connection text =>
    step connection text [] (.statement migration.version)) connection
  step connection ("INSERT INTO _sqlx_migrations ( version, description, success, checksum, " ++
    "execution_time ) VALUES ( ?1, ?2, TRUE, ?3, -1 )")
    [.integer migration.version, .text migration.description, .blob migration.sumBytes] .bookkeeping

/-- Apply migrations one after another. What was applied before a failure stays. -/
def applyAll (connection : Database.Connection) :
    List Migration → Except MigrationFailure Unit × Database.Connection
  | [] => (.ok (), connection)
  | migration :: rest =>
    match apply connection migration with
    | .error failure => (.error failure, connection)
    | .ok connection =>
      match connection.execute "UPDATE _sqlx_migrations SET execution_time = ?1 WHERE version = ?2"
          [.integer 1000000, .integer migration.version] with
      | (.ok (), connection) => applyAll connection rest
      | (.error fault, connection) => (.error (.bookkeeping fault), connection)

/-- Bring a database up to date. -/
def run (connection : Database.Connection) : Except MigrationFailure Unit × Database.Connection :=
  match connection.execute listStatement [] with
  | (.error fault, connection) => (.error (.bookkeeping fault), connection)
  | (.ok (), connection) =>
    let left : Except MigrationFailure (List Migration) := do
      match ← unfinished? connection with
      | some version => throw (.unfinished version)
      | none => remaining (← applied connection) all
    match left with
    | .error failure => (.error failure, connection)
    | .ok migrations => applyAll connection migrations

end Migration

end SignalGraph
