import SignalGraph.Files.Basic
import SignalGraph.Store.Basic
import SignalGraph.Store.Migration

/-! The table of strategies in a database file, so that it outlives the program. -/

set_option autoImplicit false

namespace SignalGraph

open Database (Datum DatabaseFault)

/-- Why the table in a folder cannot be opened. -/
inductive OpenFailure where
  | noFolder (folder : String) (cause : PathError)
  | unusable (path : String) (fault : DatabaseFault)
  | notPrepared (failure : MigrationFailure)
  deriving DecidableEq

def OpenFailure.message : OpenFailure → String
  | noFolder folder cause => s!"Failed to create database dir {folder}: " ++ cause.message
  | unusable path fault =>
    s!"Failed to connect to database at {path}: error returned from database: " ++ fault.message
  | notPrepared failure => "Failed to run migrations: " ++ failure.message

/-- A table of strategies in a database. -/
structure FileTable where
  connection : Database.Connection

namespace FileTable

/-- The file of the table that lies in a folder. -/
def pathIn (folder : String) : String := Path.join folder "strategies.db"

/-- Add a strategy as a row. The database makes its id. -/
def create (table : FileTable) (document : Document) : Except StoreError Int × FileTable :=
  let parameters : List Datum :=
    [.ofPlain document.name, .ofPlain (document.description.getD ""),
      .ofBool document.isPublic, .ofPlain document.compact, .text document.contentHash]
  let (result, connection) := table.connection.execute
    ("INSERT INTO strategies (name, description, is_public, document_json, content_hash) " ++
      "VALUES (?1, ?2, ?3, ?4, ?5)") parameters
  match result with
  | .ok () => (.ok connection.lastKey, ⟨connection⟩)
  | .error fault =>
    (.error (.database ("Failed to create strategy: error returned from database: " ++
      fault.message)), ⟨connection⟩)

variable {m : Type → Type} [Monad m] [Files m]

/-- The bytes of a file; nothing if it is not there. What is there may be no file. -/
def contents (path : String) : m (Except PathError (Option ByteArray)) := do
  match ← Files.read path with
  | .ok bytes => return .ok (some bytes)
  | .error .notFound => return .ok none
  | .error error => return .error error

def isFolder (path : String) : m Bool := do
  match ← Files.read path with
  | .error .isFolder => return true
  | _ => return false

/-- The fault of a database beside which folders stand where its journal and its log would be.
A database that has something in it looks for them earlier than an empty one. -/
def sideFault? (empty journal log : Bool) : Option DatabaseFault :=
  if journal && !empty then some (.diskError 266)
  else if log then some (if empty then .diskError 2570 else .cannotOpen)
  else if journal then some .cannotOpen
  else none

/-- The database in a folder, as its files hold it. -/
def connect (path : String) (now : Instant) : m (Except DatabaseFault Database.Connection) := do
  let main ← contents path
  let journal ← contents (path ++ "-journal")
  let log ← contents (path ++ "-wal")
  let journalIsFolder ← isFolder (path ++ "-journal")
  let logIsFolder ← isFolder (path ++ "-wal")
  let bytes (read : Except PathError (Option ByteArray)) : ByteArray :=
    match read with
    | .ok (some bytes) => bytes
    | _ => .empty
  match main with
  | .error _ => return .error .cannotOpen
  | .ok _ =>
    match sideFault? ((bytes main).size ≤ 1) journalIsFolder logIsFolder with
    | some fault => return .error fault
    | none => return Database.Connection.ofFiles ⟨bytes main, bytes journal, bytes log⟩ now

/-- Write the database into its file. What stood beside it is in it now. -/
def keepIn (table : FileTable) (folder : String) : m (Except PathError Unit) := do
  if table.connection.pages.isReadOnly then return .ok ()
  else
    let path := pathIn folder
    [path ++ "-journal", path ++ "-wal"].forM fun side => do
      match ← contents side with
      | .ok (some _) => let _ ← Files.write side .empty
      | _ => return
    Files.write path table.connection.pages.toBytes

/-- Open the table in a folder and bring it up to date. The folder is made if it is not there; a
file that is not there counts as empty. Strategies are kept over a connection of their own. -/
def openIn (folder : String) (now : Instant) : m (Except OpenFailure FileTable) := do
  let path := pathIn folder
  match ← Files.makeFolder folder with
  | .error cause => return .error (.noFolder folder cause)
  | .ok () =>
    match ← connect path now with
    | .error fault => return .error (.unusable path fault)
    | .ok connection =>
      if ← isFolder (path ++ "-shm") then
        return .error (.notPrepared (.bookkeeping .readOnly))
      else
        match Migration.run connection with
        | (.ok (), connection) => return .ok ⟨connection.anew⟩
        | (.error failure, connection) =>
          let _ ← keepIn ⟨connection⟩ folder
          return .error (.notPrepared failure)

end FileTable

end SignalGraph
