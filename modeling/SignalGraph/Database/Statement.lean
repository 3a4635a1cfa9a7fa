import SignalGraph.Database.Datum

/-! Statements about a database, as trees. -/

set_option autoImplicit false

namespace SignalGraph.Database

inductive Unary where
  | negate
  | plus
  | complement
  | not
  | isNull
  | notNull
  deriving DecidableEq

inductive Binary where
  | or
  | and
  | equal
  | unequal
  | less
  | atMost
  | more
  | atLeast
  | is
  | isNot
  | bitAnd
  | bitOr
  | shiftLeft
  | shiftRight
  | add
  | subtract
  | multiply
  | divide
  | remainder
  | concatenate
  deriving DecidableEq

def Binary.isComparison : Binary → Bool
  | equal | unequal | less | atMost | more | atLeast | is | isNot => true
  | _ => false

/-- What to do about a row that breaks a constraint. -/
inductive Conflict where
  | rollback
  | abort
  | fail
  | ignore
  | replace
  deriving DecidableEq

inductive JoinKind where
  | inner
  | left
  | right
  | full
  deriving DecidableEq

inductive Compound where
  | union
  | unionAll
  | except
  | intersect
  deriving DecidableEq

def Compound.words : Compound → String
  | union => "UNION"
  | unionAll => "UNION ALL"
  | except => "EXCEPT"
  | intersect => "INTERSECT"

/-- What the ends of a frame count by: rows, the values that rows are ordered by, or groups of rows
with the same values. -/
inductive FrameUnit where
  | rows
  | range
  | groups
  deriving DecidableEq

/-- Rows around the current one that a frame leaves out. -/
inductive FrameExclusion where
  | none
  | current
  | group
  | ties
  deriving DecidableEq

/-- What is said about the index that a table is read by. -/
inductive IndexHint where
  | free
  | without
  | named (index : String)
  deriving DecidableEq

/-- What is said about a query with a name: its rows are kept, or are not, or neither. -/
inductive Keeping where
  | open
  | kept
  | inlined
  deriving DecidableEq

mutual

inductive Expression where
  | literal (value : Datum)
  /-- A numeral that no word can hold, or that none can hold with the other sign. -/
  | numeral (written : String)
  | parameter (number : Nat)
  /-- A column, perhaps behind the name of a table. In double quotes it may turn out a text. -/
  | name (path : List String) (quoted : Bool)
  /-- A place in a row: of the query at a level, counted from the outside. -/
  | slot (level place : Nat) (leaning : Option Leaning) (collation : Option String)
  | unary (operator : Unary) (operand : Expression)
  | binary (operator : Binary) (left right : Expression)
  /-- Whether the operand counts as true, or as false. -/
  | counts (operand : Expression) (asTrue : Bool)
  | between (operand low high : Expression)
  | among (operand : Expression) (choices : List Expression)
  | amongRows (operand : Expression) (query : Query)
  | choose (base : Option Expression) (arms : List (Expression × Expression))
      (otherwise : Expression)
  | cast (operand : Expression) (type : String)
  | collate (operand : Expression) (collation : String)
  | call (call : Call)
  /-- A function over the rows of a group, which belongs to the query at a level. -/
  | total (level : Nat) (call : Call)
  | scalar (query : Query)
  /-- One of the values of a query, or of values that stand together. -/
  | component (place : Nat) (whole : Expression)
  /-- Columns that a join makes one of: the first of them that is not null. -/
  | merged (columns : List Expression)
  /-- A value that is JSON text if the mark counts as true. -/
  | marked (value mark : Expression)
  | isThere (query : Query)
  | raise (policy : Conflict) (message : Expression)
  | vector (items : List Expression)
  /-- A value that stands in the place of a column, and leans and is compared as the column is. -/
  | standing (value : Expression) (leaning : Option Leaning) (collation : Option String)
  /-- A value as a column that leans keeps it, perhaps one that is made from other columns. -/
  | kept (value : Expression) (leaning : Leaning) (isMade : Bool)

structure Call where
  name : String
  star : Bool := false
  distinct : Bool := false
  arguments : List Expression := []
  /-- The order in which a function takes the rows of a group. -/
  order : List OrderTerm := []
  filter : Option Expression := none
  window : Option Window := none
  /-- Its number among the functions over the same group. -/
  number : Nat := 0

/-- The rows that a function sees around each row. -/
structure Window where
  /-- The window whose definition is taken over. -/
  base : Option String := none
  /-- It is the base as it stands. -/
  plain : Bool := false
  partition : List Expression := []
  order : List OrderTerm := []
  frame : Option WindowFrame := none

structure WindowFrame where
  unit : FrameUnit
  start : FrameBound
  stop : FrameBound
  exclusion : FrameExclusion := .none

/-- An end of a frame: where the rows begin or end, or so far before or after the current row. -/
inductive FrameBound where
  | unbounded
  | current
  | before (amount : Expression)
  | after (amount : Expression)

inductive ResultColumn where
  /-- A value with its label, or how it is written if that counts as its name. -/
  | one (value : Expression) (label : Option String) (written : String)
  | all
  | allOf (table : String)

inductive SourceContent where
  | table (name : String)
  | query (query : Query)
  | call (name : String) (arguments : List Expression)
  | joined (sources : List Source)
  /-- A query over its own rows. -/
  | recursion (recursion : Recursion)
  /-- The row that a query over its own rows is at. -/
  | current (name : String)

structure Source where
  content : SourceContent
  label : Option String
  join : JoinKind := .inner
  /-- It is not to be read before the sources in front of it. -/
  crossed : Bool := false
  natural : Bool := false
  condition : Option Expression := none
  shared : List String := []
  hint : IndexHint := .free
  /-- Where its values begin in a row of the sources, and how many they are. -/
  place : Nat := 0
  width : Nat := 0
  /-- The named query that it stands for: its number, and what is said about it. -/
  named : Option (Nat × Keeping) := none
  /-- How its rows are found, unless they are all read one after the other. -/
  access : Option Access := none
  /-- Conditions of its rows: those that only need the values of an index, the others, and those
  that are looked at when the row has been joined. -/
  early : List Expression := []
  checks : List Expression := []
  afterwards : List Expression := []
  /-- One row of it is enough for each row before. -/
  once : Bool := false
  /-- Its place among the sources as they are written. -/
  rank : Nat := 0
  /-- Its rows are made one by one as they are asked for. -/
  streamed : Bool := false
  /-- Where it is told that there is a row of it. -/
  presence : Option Nat := none

/-- How the rows of a source are found. -/
inductive Access where
  /-- All of them, one after the other. -/
  | scan (backward : Bool)
  /-- By the numbers of rows. -/
  | numbers (probe : Option Probe) (low high : Option Bound) (backward : Bool)
  /-- By an index, of which the first columns are looked up and the next one lies between bounds.
  If it has all that is asked for, rows are not looked for in the table. Nulls may come on the
  other side of the rest than they do in the index. -/
  | index (name : String) (probes : List Probe) (low high : Option Bound)
      (backward covering nullsAcross : Bool)
  /-- By an order that is made for the purpose, of the rows that meet some conditions. Rows that
  are alike in what is looked up go by the other values that are asked for. -/
  | sorted (others : List Nat) (conditions : List Expression)
  /-- By one access after the other; no row comes twice. Each has conditions of its own, as a
  source has them. -/
  | either (parts : List (Access × List Expression × List Expression))

/-- What a column is looked up by. -/
inductive Probe where
  | equal (value : Expression)
  | same (value : Expression)
  | isNull
  | among (choices : List Expression)
  /-- One of the values of the rows of a query. -/
  | amongRows (query : Query) (place : Nat)

/-- An end of a range of values; without a value the nulls are in front of it. -/
structure Bound where
  value : Option Expression
  inclusive : Bool

/-- A query whose later parts are asked again for each row that it has. -/
structure Recursion where
  name : String
  /-- The rows to begin with. -/
  start : Query
  repeated : List Core
  /-- No two of its rows are the same. -/
  distinct : Bool
  order : List OrderTerm
  limit : Option Expression
  offset : Option Expression

structure OrderTerm where
  value : Expression
  down : Bool := false
  nullsFirst : Option Bool := none

/-- One part of a query: columns over sources. Without sources there is one row. -/
structure Core where
  distinct : Bool := false
  columns : List ResultColumn := []
  sources : List Source := []
  filter : Option Expression := none
  group : List Expression := []
  /-- The terms of the groups that go down. -/
  falling : List Bool := []
  having : Option Expression := none
  /-- The rows are made into groups; without terms to group by into one. -/
  grouped : Bool := false
  /-- The windows that functions may take over. -/
  definitions : List (String × Window) := []
  /-- Functions over windows. Their values stand behind a row of the sources. -/
  windows : List Call := []
  /-- Functions over the group, by their numbers. -/
  totals : List Call := []
  /-- How many values a row of the sources has. -/
  width : Nat := 0
  /-- Conditions that are the same for all rows. -/
  fixed : List Expression := []
  /-- The rows, or the groups that they make, come in the order that they are asked for. -/
  ordered : Bool := false
  /-- The rows come group by group. -/
  gathered : Bool := false
  /-- The first row with a value has the greatest or the least one. -/
  foremost : Bool := false

/-- A query with a name that others can use. -/
structure NamedQuery where
  name : String
  columns : List String
  query : Query
  keeping : Keeping := .open
  /-- What tells it from others of its name. -/
  number : Nat := 0

structure Query where
  named : List NamedQuery := []
  core : Core
  rest : List (Compound × Core) := []
  order : List OrderTerm := []
  limit : Option Expression := none
  offset : Option Expression := none

end

instance : Inhabited Expression := ⟨.literal .null⟩

/-- A column, or a value made from columns, that an index goes by. -/
structure KeyTerm where
  value : Expression
  down : Bool := false

inductive ReferenceAction where
  | none
  | restrict
  | setNull
  | setDefault
  | cascade
  deriving DecidableEq

/-- Rows of another table that have to be there. -/
structure Reference where
  parent : String
  columns : List String
  onDelete : ReferenceAction := .none
  onUpdate : ReferenceAction := .none
  deferred : Bool := false

inductive ColumnRule where
  | default (value : Expression) (written : String)
  | notNull (policy : Option Conflict)
  | primaryKey (down counted : Bool) (policy : Option Conflict)
  | unique (policy : Option Conflict)
  | check (condition : Expression) (label : String)
  | references (reference : Reference)
  | deferred (deferred : Bool)
  | collate (collation : String)
  | generated (value : Expression) (stored : Bool) (how : Option String)

structure ColumnDefinition where
  name : String
  type : String
  rules : List ColumnRule

inductive TableRule where
  | primaryKey (terms : List KeyTerm) (counted : Bool) (policy : Option Conflict)
  | unique (terms : List KeyTerm) (policy : Option Conflict)
  | check (condition : Expression) (label : String)
  | foreignKey (columns : List String) (reference : Reference)

/-- A name as it is meant, and as it is written. -/
structure WrittenName where
  name : String
  written : String
  /-- The name of the database stands in front. -/
  qualified : Bool := false

structure TableDefinition where
  name : WrittenName
  columns : List ColumnDefinition
  rules : List TableRule
  options : List String

structure IndexDefinition where
  name : WrittenName
  table : String
  terms : List KeyTerm
  unique : Bool
  filter : Option Expression

inductive TriggerTime where
  | before
  | after
  | instead
  deriving DecidableEq

inductive TriggerEvent where
  | insert
  | delete
  | update (columns : List String)
  deriving DecidableEq

/-- What to do if a row to be added is there already. -/
structure Upsert where
  target : List KeyTerm
  /-- The condition of the index that is meant. -/
  filter : Option Expression
  /-- The changes; without any the row is left out. -/
  changes : Option (List (List String × Expression) × Option Expression)

inductive Change where
  | insert (policy : Option Conflict) (table : WrittenName) (columns : List String)
      (rows : Option Query) (upserts : List Upsert)
  | update (policy : Option Conflict) (table : WrittenName)
      (changes : List (List String × Expression)) (sources : List Source)
      (filter : Option Expression)
  | delete (table : WrittenName) (filter : Option Expression)
  | select (query : Query)

structure TriggerDefinition where
  name : WrittenName
  time : TriggerTime
  event : TriggerEvent
  table : String
  condition : Option Expression
  steps : List Change

/-- What is known of a statement when its head has been read. -/
inductive Announcement where
  | table (ifAbsent : Bool) (name : WrittenName)
  /-- A trigger without its steps. -/
  | trigger (trigger : TriggerDefinition)

inductive Statement where
  | createTable (ifAbsent : Bool) (table : TableDefinition)
  | createTableFrom (name : WrittenName) (query : Query)
  | createIndex (ifAbsent : Bool) (index : IndexDefinition)
  | createView (name : WrittenName) (columns : List String) (query : Query)
  | createTrigger (trigger : TriggerDefinition)
  | createVirtual (name : WrittenName) (module : String)
  | change (change : Change)

end SignalGraph.Database
