import SignalGraph.Database.Statement
import SignalGraph.Database.Tree

/-! What a database is made of: tables with columns and rules, their indexes and triggers, and
views. Names do not mind the case of ASCII letters.
-/

set_option autoImplicit false

namespace SignalGraph.Database

/-- Two names mean the same. -/
def sameName (a b : String) : Bool := a.toLower == b.toLower

/-- A column of a table. Expressions over the columns of the table speak of places in its row,
behind which the number of the row stands. -/
structure Column where
  name : String
  type : String
  collation : String := "BINARY"
  notNull : Option Conflict := none
  default : Option Expression := none
  /-- How the value is written that the column has by itself. -/
  defaultText : Option String := none
  /-- The value is made from other columns, and perhaps kept in the row. -/
  generated : Option (Expression × Bool) := none

namespace Column

/-- The types that a strict table knows. -/
def strictTypes : List String := ["ANY", "BLOB", "INT", "INTEGER", "REAL", "TEXT"]

def leaning (column : Column) : Leaning := .ofType column.type

/-- The value stands in the row of the table. -/
def isStored (column : Column) : Bool := (column.generated.map fun made => made.2).getD true

end Column

structure CheckRule where
  condition : Expression
  label : String

structure ReferenceRule where
  columns : List Nat
  reference : Reference

structure IndexTerm where
  value : Expression
  /-- The place of the column, if the value is one. -/
  column : Option Nat
  collation : String
  down : Bool

inductive IndexOrigin where
  | created
  | unique
  | primaryKey
  deriving DecidableEq

structure Index where
  name : String
  root : Nat
  terms : List IndexTerm
  /-- What to do about a second row with the same values, if there may be none. -/
  unique : Option Conflict
  filter : Option Expression
  origin : IndexOrigin

inductive TableForm where
  | stored
  | view (columns : List String) (query : Query)
  | virtual (module : String)

structure Table where
  name : String
  root : Nat := 0
  form : TableForm := .stored
  columns : List Column := []
  /-- The column that is the number of the row. -/
  keyColumn : Option Nat := none
  keyPolicy : Conflict := .abort
  /-- Numbers never come back. -/
  counted : Bool := false
  /-- Without numbers, rows go by the values of these columns. -/
  ownKey : Option (List Nat) := none
  strict : Bool := false
  checks : List CheckRule := []
  references : List ReferenceRule := []
  /-- The latest first. -/
  indexes : List Index := []
  triggers : List TriggerDefinition := []

namespace Table

def column? (table : Table) (name : String) : Option Nat :=
  table.columns.findIdx? fun column => sameName column.name name

def isView (table : Table) : Bool :=
  match table.form with
  | .view _ _ => true
  | _ => false

def hasRowKeys (table : Table) : Bool :=
  match table.form with
  | .stored => table.ownKey.isNone
  | _ => false

def columnName (table : Table) (place : Nat) : String :=
  (table.columns[place]?.map Column.name).getD "rowid"

/-- How a column leans in this table. -/
def leaning (table : Table) (column : Column) : Leaning :=
  if table.strict ∧ sameName column.type "ANY" then .blob else column.leaning

end Table

structure Catalog where
  tables : List Table := []

namespace Catalog

def table? (catalog : Catalog) (name : String) : Option Table :=
  catalog.tables.find? fun table => sameName table.name name

/-- The table that an index of a name belongs to, and the index. -/
def index? (catalog : Catalog) (name : String) : Option (Table × Index) :=
  catalog.tables.findSome? fun table =>
    (table.indexes.find? fun index => sameName index.name name).map fun index => (table, index)

def hasTrigger (catalog : Catalog) (name : String) : Bool :=
  catalog.tables.any fun table => table.triggers.any fun trigger => sameName trigger.name.name name

def add (catalog : Catalog) (table : Table) : Catalog := ⟨catalog.tables ++ [table]⟩

def change (catalog : Catalog) (name : String) (change : Table → Table) : Catalog :=
  ⟨catalog.tables.map fun table => if sameName table.name name then change table else table⟩

end Catalog

namespace Index

/-- The order of its rows. Behind the terms comes what tells rows of the table apart. -/
def order (index : Index) : KeyOrder :=
  index.terms.map fun term => ((Collation.ofName? term.collation).getD .binary, term.down)

end Index

end SignalGraph.Database
