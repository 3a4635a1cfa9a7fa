import SignalGraph.Database.Layout

/-! Rows of other tables that rows refer to: by the number of the row, or by the values of columns
that no two rows share.
-/

set_option autoImplicit false

namespace SignalGraph.Database

/-- How the rows that are referred to are found. -/
inductive ParentKey where
  | number
  /-- By an index, with the column that refers for each of its terms. -/
  | index (index : Index) (columns : List Nat)

/-- A table that refers to another one, and how. -/
structure Link where
  child : Table
  rule : ReferenceRule
  parent : Table
  key : ParentKey

namespace Link

/-- The columns of an index as the names of a rule give them, if it is by just these. -/
def match? (parent : Table) (rule : ReferenceRule) (index : Index) : Option (List Nat) :=
  let names := rule.reference.columns
  if index.unique.isNone ∨ index.filter.isSome ∨ index.terms.length ≠ rule.columns.length then none
  else if names = [] then if index.origin = .primaryKey then some rule.columns else none
  else
    index.terms.mapM fun term => do
      let column ← term.column.bind fun place => parent.columns[place]?
      guard (sameName column.collation term.collation)
      let place ← names.findIdx? (sameName column.name)
      rule.columns[place]?

/-- How the parent rows of a rule are found; a rule that fits no key of the parent is at fault. -/
def key? (parent : Table) (rule : ReferenceRule) : Option ParentKey :=
  let byNumber := match parent.keyColumn, rule.columns, rule.reference.columns with
    | some _, [_], [] => true
    | some place, [_], [name] => sameName (parent.columnName place) name
    | _, _, _ => false
  if byNumber then some .number
  else parent.indexes.findSome? fun index => (match? parent rule index).map (ParentKey.index index)

/-- The link of a rule of a table. -/
def ofRule (catalog : Catalog) (child : Table) (rule : ReferenceRule) :
    Except StatementFault Link :=
  let parent? := if sameName rule.reference.parent child.name then some child
    else catalog.table? rule.reference.parent
  match parent? with
  | none => .error (.missing .table ("main." ++ rule.reference.parent))
  | some parent =>
    match key? parent rule with
    | some key => .ok ⟨child, rule, parent, key⟩
    | none => .error (.keyMismatch child.name rule.reference.parent)

/-- The links of a table to others. -/
def fromChild (catalog : Catalog) (child : Table) : Except StatementFault (List Link) :=
  child.references.mapM (ofRule catalog child)

/-- The links of other tables to a table. -/
def toParent (catalog : Catalog) (parent : Table) : Except StatementFault (List Link) :=
  (catalog.tables.flatMap fun child =>
    (child.references.filter fun rule => sameName rule.reference.parent parent.name).map
      fun rule => (child, rule)).mapM fun (child, rule) => ofRule catalog child rule

/-- The values by which a row of the child refers; with a null among them it does not refer. -/
def values? (link : Link) (row : RowValues) : Option (List Datum) :=
  let columns := match link.key with
    | .number => link.rule.columns
    | .index _ columns => columns
  let values := columns.map fun place => row.getD place .null
  if values.any Datum.isNull then none else some values

/-- The columns of the parent that the values of the child are compared with, in their order. -/
def parentColumns (link : Link) : List Nat :=
  match link.key with
  | .number => link.parent.keyColumn.toList
  | .index index _ => index.terms.filterMap IndexTerm.column

/-- The values of the child as the columns of the parent take them. -/
def leaned (link : Link) (values : List Datum) : List Datum :=
  (values.zip link.parentColumns).map fun (value, place) =>
    match link.parent.columns[place]? with
    | some column => value.leanTo (link.parent.leaning column)
    | none => value

def collations (link : Link) : List Collation :=
  match link.key with
  | .number => [.binary]
  | .index index _ => index.order.map fun part => part.1

/-- A row of the parent has the values that a row of the child refers by. -/
def refersTo (link : Link) (values : List Datum) (row : RowValues) : Bool :=
  let own := link.parentColumns.map fun place => row.getD place .null
  own.length = values.length &&
    (((link.leaned values).zip own).zip link.collations).all fun ((a, b), collation) =>
      !b.isNull && Datum.order collation a b = .eq

end Link

end SignalGraph.Database
