import SignalGraph.Database.Flow
import SignalGraph.Database.Function
import SignalGraph.Database.Layout
import SignalGraph.Database.Opening

/-! What is around an evaluation: the database, the rows that queries stand at, and how an
evaluation ends if it does not come to a value.

A frame has one row for each query around an expression. A query with groups has one row for each
group, and the rows of the group beside it.
-/

set_option autoImplicit false

namespace SignalGraph.Database

open JsonFunction (Argument)

/-- Why something that was begun is not gone on with. -/
inductive Stop where
  /-- A fault, and what becomes of the changes so far. -/
  | fault (fault : DatabaseFault) (policy : Conflict)
  /-- A trigger asks to leave the row out. -/
  | ignore

abbrev Evaluating := Except Stop

namespace Evaluating

variable {α : Type}

def refuse (fault : DatabaseFault) : Evaluating α := .error (.fault fault .abort)

def ofStatement (result : Except StatementFault α) : Evaluating α :=
  result.mapError fun fault => .fault (.statement fault) .abort

def ofDatabase (result : Except DatabaseFault α) : Evaluating α :=
  result.mapError fun fault => .fault fault .abort

end Evaluating

/-- Rows on their way. -/
abbrev RowFlow := Flow Stop RowValues

structure World where
  pages : Pages
  catalog : Catalog
  around : Function.Surroundings
  parameters : List Datum := []
  /-- The place of a rule that may not ask for the present. -/
  timeless : Option String := none
  /-- The outermost row is the one that a trigger fires for. -/
  fired : Bool := false

/-- A row of a query, and what functions make of the rows of the group that it stands for. -/
structure Standing where
  row : RowValues
  totals : List Argument := []

structure Frame where
  levels : Array Standing := #[]
  /-- The rows that queries over their own rows are at, the innermost first. -/
  current : List (String × RowValues) := []

namespace Frame

def push (frame : Frame) (row : RowValues) : Frame :=
  { frame with levels := frame.levels.push { row } }

def pushStanding (frame : Frame) (standing : Standing) : Frame :=
  { frame with levels := frame.levels.push standing }

/-- The frame of the queries around a level. -/
def outside (frame : Frame) (level : Nat) : Frame :=
  { frame with levels := frame.levels.extract 0 level }

def value (frame : Frame) (level place : Nat) : Datum :=
  match frame.levels[level]? with
  | some standing => standing.row.getD place .null
  | none => .null

/-- What the function of a number makes of the group of a level. -/
def total (frame : Frame) (level number : Nat) : Argument :=
  ((frame.levels[level]?).bind fun standing => standing.totals[number]?).getD (.null, false)

/-- The frame with another value behind the row of its innermost query. -/
def withValue (frame : Frame) (place : Nat) (value : Datum) : Frame :=
  match frame.levels.back? with
  | some standing =>
    let lacking := place + 1 - standing.row.size
    let row := standing.row ++ (Array.replicate lacking Datum.null : RowValues)
    let standing := { standing with row := row.setIfInBounds place value }
    { frame with levels := frame.levels.pop.push standing }
  | none => frame

end Frame

namespace RowValues

/-- Values put into a row from a place on. -/
def overlay (row : RowValues) (place : Nat) (other : RowValues) : RowValues :=
  let row := row ++ (Array.replicate (place - row.size) Datum.null : RowValues)
  if row.size = place then row ++ other
  else
    let row := row ++ (Array.replicate (place + other.size - row.size) Datum.null : RowValues)
    (other.toList.zipIdx.foldl (fun row (value, index) => row.setIfInBounds (place + index) value)
      row)

end RowValues

namespace World

/-- The rows of a table as they are kept, in the order of its tree. -/
def keptRows (world : World) (table : Table) : RowFlow :=
  let broken : Stop := .fault .broken .abort
  let encoding := world.pages.encoding
  let kind := if table.ownKey.isSome then RowKind.index else RowKind.table
  let rows := world.pages.rowFlow kind Pages.levelLimit true table.root
  (rows.mapFault fun fault => Stop.fault fault .abort).mapM fun row =>
    match Record.decode? encoding row.payload with
    | some record => .ok (table.rowOfRecord row.key record)
    | none => .error broken

/-- What an index tells about the rows of its table, in its order. -/
def entries (world : World) (table : Table) (index : Index) : Flow Stop Table.Entry :=
  let encoding := world.pages.encoding
  let root := if table.isOwn index then table.root else index.root
  let rows := world.pages.rowFlow .index Pages.levelLimit true root
  (rows.mapFault fun fault => Stop.fault fault .abort).mapM fun row =>
    match Record.decode? encoding row.payload with
    | some record => .ok (table.entryOf index record)
    | none => .error (.fault .broken .abort)

/-- The row of a table that is told apart by some values. -/
def rowAt (world : World) (table : Table) (identity : List Datum) :
    Evaluating (Option RowValues) := do
  let encoding := world.pages.encoding
  match table.ownKey, identity with
  | some key, identity =>
    let found ← Evaluating.ofDatabase
      (world.pages.record? encoding (table.keyOrder key) table.root identity)
    return found.map (table.rowOfRecord 0)
  | none, [.integer key] =>
    match ← Evaluating.ofDatabase (world.pages.row? table.root key) with
    | none => return none
    | some row =>
      match Record.decode? encoding row.payload with
      | some record => return some (table.rowOfRecord row.key record)
      | none => Evaluating.refuse .broken
  | none, _ => return none

end World

end SignalGraph.Database
