import SignalGraph.Database.Resolve

/-! Tables and indexes from the statements that define them.

The rules of a table make indexes of their own, one for each set of columns that has to be unique.
A schema that is read may speak of functions and collations that are not known.
-/

set_option autoImplicit false

namespace SignalGraph.Database

/-- The value and the collation of a term. A column in quotes that are meant for texts is a column
all the same. -/
def KeyTerm.meaning (term : KeyTerm) : Expression × Option String :=
  let asColumn : Expression → Expression
    | .literal (.text name) => .name [name] false
    | value => value
  match term.value with
  | .collate value collation => (asColumn value, some collation)
  | value => (asColumn value, none)

/-- A table in the middle of being defined. -/
structure TableDraft where
  catalog : Catalog
  table : Table
  /-- Indexes in the order in which the rules ask for them. -/
  indexes : List Index := []
  keyed : Bool := false
  reading : Bool

abbrev Drafting := StateT TableDraft (Except StatementFault)

namespace Drafting

def changeTable (change : Table → Table) : Drafting Unit :=
  modify fun draft => { draft with table := change draft.table }

/-- Change the column that was added last. -/
def changeColumn (change : Column → Column) : Drafting Unit :=
  changeTable fun table =>
    match table.columns.reverse with
    | last :: before => { table with columns := (change last :: before).reverse }
    | [] => table

def lastPlace : Drafting Nat := do return (← get).table.columns.length - 1

def columnAt (place : Nat) : Drafting Column := do
  return ((← get).table.columns[place]?).getD { name := "", type := "" }

def ofExcept {α : Type} (result : Except StatementFault α) : Drafting α :=
  match result with
  | .ok value => return value
  | .error fault => throw fault

/-- The name of the index that the rule of a number makes. -/
def automaticName (table : String) (number : Nat) : String :=
  "sqlite_autoindex_" ++ table ++ "_" ++ toString number

/-- Two indexes go by the same columns in the same way. -/
def sameTerms (a b : List IndexTerm) : Bool :=
  a.length = b.length && (a.zip b).all fun (first, second) =>
    first.column = second.column && sameName first.collation second.collation

/-- The index that a rule about unique columns makes, unless there is one like it. -/
def addIndex (terms : List IndexTerm) (policy : Option Conflict) (origin : IndexOrigin) :
    Drafting Unit := do
  let draft ← get
  let merge (index : Index) : Index :=
    if sameTerms index.terms terms then
      { index with
        unique := if index.unique = some .abort then some (policy.getD .abort) else index.unique
        origin := if origin = .primaryKey then origin else index.origin }
    else index
  if draft.indexes.any fun index => sameTerms index.terms terms then
    if draft.indexes.any fun index => sameTerms index.terms terms &&
        index.unique ≠ some .abort && policy.isSome && index.unique ≠ policy then
      throw (.domain "conflicting ON CONFLICT clauses specified")
    set { draft with indexes := draft.indexes.map merge }
  else
    let name := automaticName draft.table.name (draft.indexes.length + 1)
    let index : Index := { name, root := 0, terms, unique := some (policy.getD .abort)
                           filter := none, origin }
    set { draft with indexes := draft.indexes ++ [index] }

/-- The term of an index that is a column of the table. -/
def columnTerm (place : Nat) (collation : Option String) (down : Bool) : Drafting IndexTerm := do
  let table := (← get).table
  let column ← columnAt place
  return { value := .slot 0 place (some (table.leaning column)) (some column.collation)
           column := some place, collation := collation.getD column.collation, down }

/-- The column that the term of a rule stands for, as a term of an index. -/
def ruleTerm (term : KeyTerm) : Drafting IndexTerm := do
  let draft ← get
  let scope := { Scope.ofTable draft.catalog draft.table with
                 position := .indexTerm, lenient := draft.reading }
  let (value, collation) := term.meaning
  match ← ofExcept (scope.resolve value) with
  | .slot _ place _ _ =>
    match collation with
    | some name =>
      if (Collation.ofName? name).isNone ∧ ¬draft.reading then throw (.missing .collation name)
    | none => pure ()
    columnTerm place collation term.down
  | _ => throw (.prohibited "expressions" "PRIMARY KEY and UNIQUE constraints")

/-- Make columns the key of the table. A lone integer is the number of the row itself; other keys
make an index. -/
def addKey (places : List (Option Nat)) (terms : Drafting (List IndexTerm))
    (namesRows counted : Bool) (policy : Option Conflict) : Drafting Unit := do
  let draft ← get
  if draft.keyed then throw (.severalKeys draft.table.name)
  set { draft with keyed := true }
  (places.filterMap id).forM fun place => do
    if (← columnAt place).generated.isSome then throw .generatedKey
  let lone ← match places with
    | [some place] => do
      let column ← columnAt place
      pure (if namesRows && column.type.toLower = "integer" then some place else none)
    | _ => pure none
  match lone with
  | some place => changeTable fun table =>
      { table with keyColumn := some place, keyPolicy := policy.getD .abort, counted }
  | none =>
    if counted then throw .countedKey
    addIndex (← terms) policy .primaryKey

def isConstant (value : Expression) : Bool :=
  (value.findPart? (fun
    | .name [name] quoted =>
      if quoted || name.toLower = "true" || name.toLower = "false" then none else some ()
    | .name _ _ | .slot _ _ _ _ | .scalar _ | .isThere _ | .amongRows _ _ | .raise _ _ => some ()
    | _ => none) Expression.depthLimit).isNone

def addReference (columns : List Nat) (reference : Reference) : Drafting Unit :=
  changeTable fun table => { table with references := table.references ++ [⟨columns, reference⟩] }

def applyRule (rule : ColumnRule) : Drafting Unit := do
  let place ← lastPlace
  let column ← columnAt place
  match rule with
  | .default value written =>
    if !isConstant value then throw (.variableDefault column.name)
    if column.generated.isSome then throw .generatedDefault
    changeColumn fun column => { column with default := some value, defaultText := some written }
  | .notNull policy => changeColumn fun column =>
      { column with notNull := some (policy.getD .abort) }
  | .primaryKey down counted policy =>
    addKey [some place] (do return [← columnTerm place none down]) (!down) counted policy
  | .unique policy => addIndex [← columnTerm place none false] policy .unique
  | .check condition label => changeTable fun table =>
      { table with checks := table.checks ++ [⟨condition, label⟩] }
  | .references reference =>
    if 1 < reference.columns.length then
      throw (.singleKeyWidth column.name reference.parent)
    addReference [place] reference
  | .deferred deferred => changeTable fun table =>
      match table.references.reverse with
      | last :: before =>
        let last := if deferred then { last with reference := { last.reference with deferred } }
          else last
        { table with references := (last :: before).reverse }
      | [] => table
  | .collate collation =>
    if (Collation.ofName? collation).isNone ∧ ¬(← get).reading then
      throw (.missing .collation collation)
    changeColumn fun column => { column with collation }
    modify fun draft => { draft with indexes := draft.indexes.map fun index =>
      { index with terms := index.terms.map fun term =>
          if term.column = some place then { term with collation } else term } }
  | .generated value stored how =>
    if how.any fun word => word.toLower ≠ "stored" && word.toLower ≠ "virtual" then
      throw (.domain ("error in generated column \"" ++ column.name ++ "\""))
    if column.default.isSome then
      throw (.domain ("error in generated column \"" ++ column.name ++ "\""))
    if (← get).keyed ∧ ((← get).table.keyColumn = some place ∨
        (← get).indexes.any fun index => index.origin = .primaryKey &&
          index.terms.any fun term => term.column = some place) then throw .generatedKey
    changeColumn fun column => { column with generated := some (value, stored) }

def addColumn (definition : ColumnDefinition) : Drafting Unit := do
  let table := (← get).table
  if (table.column? definition.name).isSome then throw (.duplicateColumn definition.name)
  changeTable fun table =>
    { table with columns := table.columns ++ [{ name := definition.name, type := definition.type }] }
  definition.rules.forM applyRule

def applyTableRule (rule : TableRule) : Drafting Unit := do
  match rule with
  | .primaryKey terms counted policy =>
    let table := (← get).table
    let places := terms.map fun term =>
      match term.meaning.1 with
      | .name [name] _ => table.column? name
      | _ => none
    addKey places (terms.mapM ruleTerm) true counted policy
  | .unique terms policy => addIndex (← terms.mapM ruleTerm) policy .unique
  | .check condition label => changeTable fun table =>
      { table with checks := table.checks ++ [⟨condition, label⟩] }
  | .foreignKey columns reference =>
    if reference.columns ≠ [] ∧ reference.columns.length ≠ columns.length then throw .keyWidth
    let table := (← get).table
    let places ← columns.mapM fun name =>
      match table.column? name with
      | some place => return place
      | none => throw (.unknownKeyColumn name)
    addReference places reference

/-- The types of a strict table, and its key that no null may be in. -/
def makeStrict : Drafting Unit := do
  let table := (← get).table
  table.columns.forM fun column => do
    if column.type = "" then throw (.untypedColumn table.name column.name)
    if column.type.toUpper ∉ Column.strictTypes then
      throw (.unknownType table.name column.name column.type)
  let key := ((← get).indexes.filter fun index => index.origin = .primaryKey).flatMap
    fun index => index.terms.filterMap IndexTerm.column
  changeTable fun table =>
    { table with
      strict := true
      columns := table.columns.zipIdx.map fun (column, place) =>
        if place ∈ key ∧ column.notNull.isNone then { column with notNull := some .abort }
        else column }

/-- A table whose rows have no numbers goes by its key. -/
def dropKeys : Drafting Unit := do
  let draft ← get
  if draft.table.counted then throw .countedWithoutRows
  if !draft.keyed then throw (.keyMissing draft.table.name)
  match draft.table.keyColumn with
  | some place =>
    let policy := draft.table.keyPolicy
    changeTable fun table => { table with keyColumn := none }
    addIndex [← columnTerm place none false] (some policy) .primaryKey
  | none => pure ()
  let key := ((← get).indexes.filter fun index => index.origin = .primaryKey).flatMap
    fun index => index.terms.filterMap IndexTerm.column
  changeTable fun table =>
    { table with
      ownKey := some key
      columns := table.columns.zipIdx.map fun (column, place) =>
        if place ∈ key ∧ column.notNull.isNone then { column with notNull := some .abort }
        else column }

/-- Give the names in the rules of the table their meaning. -/
def resolveRules : Drafting Unit := do
  let draft ← get
  let table := draft.table
  if table.columns.all fun column => column.generated.isSome then throw .onlyGenerated
  let scope := { Scope.ofTable draft.catalog table with lenient := draft.reading }
  let columns ← table.columns.mapM fun column => do
    match column.generated with
    | some (value, stored) =>
      let value ← ofExcept ({ scope with position := .generated }.resolve value)
      return { column with generated := some (value, stored) }
    | none => return column
  let checks ← table.checks.mapM fun rule => do
    let condition ← ofExcept ({ scope with position := .check }.resolve rule.condition)
    return { rule with condition }
  changeTable fun table => { table with checks, columns }

/-- The order in which indexes are looked at: the latest first, but behind the others those that
replace rows. -/
def arrange (indexes : List Index) : List Index :=
  let replaces (index : Index) : Bool := index.unique = some .replace
  (indexes.filter fun index => !replaces index).reverse ++ (indexes.filter replaces).reverse

def finish (definition : TableDefinition) : Drafting Unit := do
  definition.columns.forM addColumn
  definition.rules.forM applyTableRule
  if "STRICT" ∈ definition.options then makeStrict
  if "WITHOUT" ∈ definition.options then dropKeys
  resolveRules

end Drafting

namespace Table

/-- The table that a definition makes, with its indexes in the order in which they are made. -/
def ofDefinition (catalog : Catalog) (reading : Bool) (definition : TableDefinition) :
    Except StatementFault (Table × List Index) := do
  let start : TableDraft := { catalog, table := { name := definition.name.name }, reading }
  let (_, draft) ← (Drafting.finish definition).run start
  return ({ draft.table with indexes := Drafting.arrange draft.indexes }, draft.indexes)

/-- The index on a table that a definition makes. -/
def indexOfDefinition (catalog : Catalog) (reading : Bool) (table : Table)
    (definition : IndexDefinition) : Except StatementFault Index := do
  let scope := { Scope.ofTable catalog table with lenient := reading }
  let terms ← definition.terms.mapM fun term => do
    let (value, collation) := term.meaning
    let value ← { scope with position := .indexTerm }.resolve value
    let place := match value with
      | .slot _ place _ _ => if place < table.columns.length then some place else none
      | _ => none
    let own := (place.bind fun place => table.columns[place]?).map Column.collation
    let collation := (collation <|> own).getD "BINARY"
    if (Collation.ofName? collation).isNone ∧ ¬reading then throw (.missing .collation collation)
    return ({ value, column := place, collation, down := term.down } : IndexTerm)
  let filter ← definition.filter.mapM fun filter =>
    { scope with position := .indexFilter }.resolve filter
  return { name := definition.name.name, root := 0, terms
           unique := if definition.unique then some .abort else none, filter, origin := .created }

/-- The table with one more index. -/
def withIndex (table : Table) (index : Index) : Table :=
  let replaces (index : Index) : Bool := index.unique = some .replace
  let indexes := index :: table.indexes
  { table with indexes := indexes.filter (fun index => !replaces index) ++ indexes.filter replaces }

end Table

end SignalGraph.Database
