import SignalGraph.Database.Catalog
import SignalGraph.Database.Rows

/-! How the rows of a table stand in its tree.

A row is the values of all columns, and behind them its number if the table has numbers. In the
tree stand the columns that are kept, and a column that is the number of the row is empty there.
Where rows have no numbers the columns of the key come first.
-/

set_option autoImplicit false

namespace SignalGraph.Database

namespace Table

/-- The columns of the record of a row, in their order there. -/
def recordColumns (table : Table) : List Nat :=
  let kept := (List.range table.columns.length).filter fun place =>
    (table.columns[place]?.map Column.isStored).getD false
  match table.ownKey with
  | none => kept
  | some key => key.eraseDups ++ kept.filter fun place => place ∉ key

/-- The value that a column has in rows from before it was there. -/
def absentValue (table : Table) (place : Nat) : Datum :=
  match table.columns[place]? with
  | some column =>
    match column.default with
    | some (.literal value) => value.leanTo (table.leaning column)
    | some (.numeral written) =>
      match Literal.numeralValue written with
      | .ok value => value.leanTo (table.leaning column)
      | .error _ => .null
    | some (.unary .negate (.literal value)) => value.negate.leanTo (table.leaning column)
    | _ => .null
  | none => .null

/-- The value of a column as it is read: reals may be kept as integers. -/
def readValue (table : Table) (place : Nat) (value : Datum) : Datum :=
  match table.columns[place]? with
  | some column => if table.leaning column = .real then value.widen else value
  | none => value

/-- The row of a record. Columns that are not kept are empty. -/
def rowOfRecord (table : Table) (key : Int) (record : List Datum) : RowValues :=
  let places := table.recordColumns
  let empty : RowValues := (List.replicate table.columns.length Datum.null).toArray
  let row := places.zipIdx.foldl (fun row (place, index) =>
    row.setIfInBounds place (match record[index]? with
      | some value => table.readValue place value
      | none => table.absentValue place)) empty
  if table.hasRowKeys then
    let row := match table.keyColumn with
      | some place => row.setIfInBounds place (.integer key)
      | none => row
    row.push (.integer key)
  else row

/-- A value as it is kept: a real that is an integer takes less room as one. -/
def keptValue (table : Table) (place : Nat) (value : Datum) : Datum :=
  match table.columns[place]? with
  | some column => if table.leaning column = .real then value.settle else value
  | none => value

/-- The record of a row. -/
def recordOfRow (table : Table) (row : RowValues) : List Datum :=
  table.recordColumns.map fun place =>
    if table.keyColumn = some place then .null else table.keptValue place (row.getD place .null)

/-- The number of a row. -/
def keyOfRow (table : Table) (row : RowValues) : Int :=
  match row.getD table.columns.length .null with
  | .integer key => key
  | _ => 0

/-- What tells a row of a table apart from the others. -/
def identity (table : Table) (row : RowValues) : List Datum :=
  match table.ownKey with
  | some key => key.map fun place => row.getD place .null
  | none => [.integer (table.keyOfRow row)]

/-- The same, from the record of an index. -/
def identityIn (table : Table) (index : Index) (record : List Datum) : List Datum :=
  match table.ownKey with
  | none => record.getLast?.toList
  | some key =>
    let own := index.terms.map fun term => term.column
    let missing := key.filter fun place => some place ∉ own
    key.map fun place =>
      match own.findIdx? (· = some place) with
      | some position => record.getD position .null
      | none => record.getD (own.length + (missing.findIdx? (· = place)).getD 0) .null

/-- The index is the tree of the table itself. -/
def isOwn (table : Table) (index : Index) : Bool :=
  table.ownKey.isSome && index.origin = .primaryKey

/-- The places of the columns behind the terms of an index, in a row with its number behind. -/
def tailPlaces (table : Table) (index : Index) : List Nat :=
  match table.ownKey with
  | none => [table.columns.length]
  | some key => key.filter fun place => !index.terms.any fun term => term.column = some place

/-- What tells the rows of a table apart, behind the terms of an index. -/
def indexTail (table : Table) (index : Index) (row : RowValues) : List Datum :=
  match table.ownKey with
  | none => [.integer (table.keyOfRow row)]
  | some _ => (table.tailPlaces index).map fun place => row.getD place .null

/-- What an index tells about a row: its own values, those that stand in the row with their places
there, and what tells the row apart. -/
structure Entry where
  values : List Datum
  placed : List (Nat × Datum)
  identity : List Datum

/-- A row with the values of an entry, from a place on. -/
def Entry.onto (entry : Entry) (start : Nat) (row : RowValues) : RowValues :=
  entry.placed.foldl (fun row (place, value) => row.setIfInBounds (start + place) value) row

/-- What a record of an index tells. -/
def entryOf (table : Table) (index : Index) (record : List Datum) : Entry :=
  if table.isOwn index then
    let row := table.rowOfRecord 0 record
    { values := index.terms.map fun term => row.getD (term.column.getD 0) .null
      placed := row.toList.zipIdx.map fun (value, place) => (place, value)
      identity := table.identity row }
  else
    let places := index.terms.map IndexTerm.column ++ (table.tailPlaces index).map some
    let identity := table.identityIn index record
    let own := (places.zip record).filterMap fun (place, value) =>
      place.map fun place => (place, table.readValue place value)
    let key := match table.keyColumn, identity with
      | some place, [key] => [(place, key)]
      | _, _ => []
    { values := record, placed := own ++ key, identity }

/-- How many values a row has. -/
def rowWidth (table : Table) : Nat := table.columns.length + if table.hasRowKeys then 1 else 0

/-- The order of a tree of rows without numbers. -/
def keyOrder (table : Table) (key : List Nat) : KeyOrder :=
  match table.indexes.find? fun index => index.origin = .primaryKey with
  | some index => index.order
  | none => key.map fun _ => (.binary, false)

end Table

end SignalGraph.Database
