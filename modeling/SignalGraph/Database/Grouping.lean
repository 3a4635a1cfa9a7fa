import SignalGraph.Database.World

/-! Parts of a query that its rows or groups of rows share: the functions over a group, the row that
stands for a group, and functions over the same window.
-/

set_option autoImplicit false

namespace SignalGraph.Database

namespace Core

/-- The last of the functions for greatest or least values that a query has. -/
def extreme? (core : Core) : Option Call :=
  (core.totals.filter fun call => call.name = "max" || call.name = "min").getLast?

/-- The windows that functions share, each with the functions and their places. -/
def sharedWindows (core : Core) : List (Window × List (Nat × Call)) :=
  core.windows.zipIdx.foldl (fun done (call, place) =>
    match call.window with
    | none => done
    | some window =>
      if done.any fun entry => entry.1.isSame window then
        done.map fun entry =>
          if entry.1.isSame window then (entry.1, entry.2 ++ [(place, call)]) else entry
      else done ++ [(window, [(place, call)])]) []

/-- The collations of the columns that some parts of a query give values for. -/
def collations (cores : List Core) : List Collation :=
  (List.range ((cores.head?.map fun core => core.columns.length).getD 0)).map fun place =>
    let name? := cores.findSome? fun core => (core.values[place]?).bind Expression.collation?
    (name?.bind Collation.ofName?).getD .binary

end Core

/-- The greatest or least value so far, and the row that stands for the group. -/
structure Choice where
  extreme : Option Datum := none
  row : Option RowValues := none

/-- Look at one more row, with the value that decides if it counts. -/
def Choice.step (greatest : Bool) (collation : Collation) (choice : Choice)
    (entry : Option Datum × RowValues) : Choice :=
  match entry, choice.extreme with
  | (none, row), _ => { choice with row := some (choice.row.getD row) }
  | (some value, row), none =>
    { extreme := if value.isNull then none else some value, row := some row }
  | (some value, row), some best =>
    if value.isNull then choice
    else if Datum.order collation value best = (if greatest then .gt else .lt) then
      { extreme := some value, row := some row }
    else choice

namespace Call

/-- What a function over a group is given; if nothing is told it is one. -/
def given (call : Call) : List Expression :=
  if call.arguments.isEmpty then [.literal (.integer 1)] else call.arguments

/-- The value of a function over the rows of a group. Each row has its arguments, and what the rows
are ordered by. -/
def valueOf (call : Call) (rows : List (List JsonFunction.Argument × List Datum)) :
    Except StatementFault JsonFunction.Argument :=
  let collation := (call.given.head?.map Expression.ownCollation).getD .binary
  let firstOf (entry : List JsonFunction.Argument × List Datum) : List Datum :=
    (entry.1.take 1).map fun argument => argument.1
  let rows := if call.distinct then Rows.distinct [collation] firstOf rows else rows
  let rows := Rows.sortBy (Rows.termsOf call.order) (fun entry => entry.2) rows
  Total.value collation call.name (rows.map fun entry => entry.1)

end Call

end SignalGraph.Database
