/-! Why a database does not do what it is asked. Each cause has a code and a message. -/

set_option autoImplicit false

namespace SignalGraph.Database

/-- What the rows of a table have to obey. -/
inductive Constraint where
  | check
  | foreignKey
  | notNull
  | primaryKey
  /-- A program of the table itself refuses the row. -/
  | refusal
  | unique
  | rowKey
  | storage
  deriving DecidableEq

def Constraint.code : Constraint → Nat
  | check => 275
  | foreignKey => 787
  | notNull => 1299
  | primaryKey => 1555
  | refusal => 1811
  | unique => 2067
  | rowKey => 2579
  | storage => 3091

/-- What a name in a statement may stand for. -/
inductive Item where
  | table
  | view
  | index
  | trigger
  | column
  | function
  | collation
  | module
  deriving DecidableEq

def Item.word : Item → String
  | table => "table"
  | view => "view"
  | index => "index"
  | trigger => "trigger"
  | column => "column"
  | function => "function"
  | collation => "collation sequence"
  | module => "module"

/-- What is wrong with a statement, before anything is done. -/
inductive StatementFault where
  | near (token : String)
  | incomplete
  | unrecognized (token : String)
  | missing (item : Item) (name : String)
  | present (item : Item) (name : String)
  | nameTaken (item : Item) (name : String)
  | unknownFunction (name : String)
  | argumentCount (name : String)
  | ambiguousColumn (name : String)
  | misusedAggregate (name : String)
  | misusedWindow (name : String)
  /-- A function over a group stands where its rows are not there yet. -/
  | strayAggregate (name : String)
  | misusedAlias (what name : String)
  | filteredCall (name : String)
  | orderedCall (name : String)
  | distinctCall
  | notWindow (name : String)
  | missingWindow (name : String)
  | overriddenWindow (clause name : String)
  | notCallable (table : String)
  | rowArguments (table : String) (most : Nat)
  | circularQuery (name : String)
  | severalReferences (name : String)
  | namedWidth (name : String) (values columns : Nat)
  | elementWidth (terms expected : Nat)
  | assignedWidth (columns values : Nat)
  | aggregateInGroup
  | havingWithoutGroup
  | noColumnNamed (table column : String)
  | valueCount (given columns : Nat)
  | tableWidth (table : String) (columns given : Nat)
  | rowWidths
  | unionWidth (operator : String)
  | queryWidth (columns expected : Nat)
  | rowMisused
  | orderPlace (term columns : Nat) (clause : String)
  | orderUnmatched (term : Nat)
  | noTables
  | writtenGenerated (verb column : String)
  | changedView (name : String)
  | notModifiable (name : String)
  | notIndexable (what : String)
  | duplicateColumn (name : String)
  | severalKeys (table : String)
  | countedKey
  | countedWithoutRows
  | keyMissing (table : String)
  | unknownOption (word : String)
  | untypedColumn (table column : String)
  | unknownType (table column type : String)
  | variableDefault (column : String)
  | onlyGenerated
  | generatedKey
  | generatedLoop (column : String)
  | generatedDefault
  | circular (view : String)
  | viewWidth (view : String) (columns given : Nat)
  | prohibited (what place : String)
  | keyMismatch (child parent : String)
  | unknownKeyColumn (column : String)
  | keyWidth
  | singleKeyWidth (column : String) (table : String)
  | raiseOutside
  | triggerPlace (time kind table : String)
  | qualifiedChange
  | constructorLimit
  | cannotJoin (column : String)
  | malformedText
  | tooLong
  | domain (text : String)
  deriving DecidableEq

def ordinal (n : Nat) : String :=
  let ending :=
    if n % 100 / 10 = 1 then "th"
    else if n % 10 = 1 then "st"
    else if n % 10 = 2 then "nd"
    else if n % 10 = 3 then "rd"
    else "th"
  toString n ++ ending

namespace StatementFault

def message : StatementFault → String
  | near token => s!"near \"{token}\": syntax error"
  | incomplete => "incomplete input"
  | unrecognized token => s!"unrecognized token: \"{token}\""
  | missing item name => s!"no such {item.word}: {name}"
  | present item name => s!"{item.word} {name} already exists"
  | nameTaken .index name => s!"there is already an index named {name}"
  | nameTaken item name => s!"there is already a {item.word} named {name}"
  | unknownFunction name => s!"unknown function: {name}()"
  | argumentCount name => s!"wrong number of arguments to function {name}()"
  | ambiguousColumn name => s!"ambiguous column name: {name}"
  | misusedAggregate name => s!"misuse of aggregate function {name}()"
  | misusedWindow name => s!"misuse of window function {name}()"
  | strayAggregate name => s!"misuse of aggregate: {name}()"
  | misusedAlias what name => s!"misuse of aliased {what} {name}"
  | filteredCall name => s!"FILTER may not be used with non-aggregate {name}()"
  | orderedCall name => s!"ORDER BY may not be used with non-aggregate {name}()"
  | distinctCall => "DISTINCT aggregates must have exactly one argument"
  | notWindow name => s!"{name}() may not be used as a window function"
  | missingWindow name => s!"no such window: {name}"
  | overriddenWindow clause name => s!"cannot override {clause} of window: {name}"
  | notCallable table => s!"'{table}' is not a function"
  | rowArguments table most => s!"too many arguments on {table}() - max {most}"
  | circularQuery name => s!"circular reference: {name}"
  | severalReferences name => s!"multiple references to recursive table: {name}"
  | namedWidth name values columns => s!"table {name} has {values} values for {columns} columns"
  | elementWidth terms expected =>
    let ending := if 1 < terms then "s" else ""
    s!"IN(...) element has {terms} term{ending} - expected {expected}"
  | assignedWidth columns values => s!"{columns} columns assigned {values} values"
  | aggregateInGroup => "aggregate functions are not allowed in the GROUP BY clause"
  | havingWithoutGroup => "HAVING clause on a non-aggregate query"
  | noColumnNamed table column => s!"table {table} has no column named {column}"
  | valueCount given columns => s!"{given} values for {columns} columns"
  | tableWidth table columns given =>
    s!"table {table} has {columns} columns but {given} values were supplied"
  | rowWidths => "all VALUES must have the same number of terms"
  | unionWidth operator =>
    s!"SELECTs to the left and right of {operator} do not have the same number of result columns"
  | queryWidth columns expected => s!"sub-select returns {columns} columns - expected {expected}"
  | rowMisused => "row value misused"
  | orderPlace term columns clause =>
    s!"{ordinal term} {clause} BY term out of range - should be between 1 and {columns}"
  | orderUnmatched term =>
    s!"{ordinal term} ORDER BY term does not match any column in the result set"
  | noTables => "no tables specified"
  | writtenGenerated verb column => s!"cannot {verb} generated column \"{column}\""
  | changedView name => s!"cannot modify {name} because it is a view"
  | notModifiable name => s!"table {name} may not be modified"
  | notIndexable what => s!"{what} may not be indexed"
  | duplicateColumn name => s!"duplicate column name: {name}"
  | severalKeys table => s!"table \"{table}\" has more than one primary key"
  | countedKey => "AUTOINCREMENT is only allowed on an INTEGER PRIMARY KEY"
  | countedWithoutRows => "AUTOINCREMENT not allowed on WITHOUT ROWID tables"
  | keyMissing table => s!"PRIMARY KEY missing on table {table}"
  | unknownOption word => s!"unknown table option: {word}"
  | untypedColumn table column => s!"missing datatype for {table}.{column}"
  | unknownType table column type => s!"unknown datatype for {table}.{column}: \"{type}\""
  | variableDefault column => s!"default value of column [{column}] is not constant"
  | onlyGenerated => "must have at least one non-generated column"
  | generatedKey => "generated columns cannot be part of the PRIMARY KEY"
  | generatedLoop column => s!"generated column loop on \"{column}\""
  | generatedDefault => "cannot use DEFAULT on a generated column"
  | circular view => s!"view {view} is circularly defined"
  | viewWidth view columns given => s!"expected {columns} columns for '{view}' but got {given}"
  | prohibited what place => s!"{what} prohibited in {place}"
  | keyMismatch child parent => s!"foreign key mismatch - \"{child}\" referencing \"{parent}\""
  | unknownKeyColumn column => s!"unknown column \"{column}\" in foreign key definition"
  | keyWidth =>
    "number of columns in foreign key does not match the number of columns in the referenced table"
  | singleKeyWidth column table =>
    s!"foreign key on {column} should reference only one column of table {table}"
  | raiseOutside => "RAISE() may only be used within a trigger-program"
  | triggerPlace time kind table => s!"cannot create {time} trigger on {kind}: {table}"
  | qualifiedChange =>
    "qualified table names are not allowed on INSERT, UPDATE, and DELETE statements within triggers"
  | constructorLimit => "parser stack overflow"
  | cannotJoin column =>
    s!"cannot join using column {column} - column not present in both tables"
  | malformedText => "malformed JSON"
  | tooLong => "string or blob too big"
  | domain text => text

end StatementFault

/-- Why a database cannot be used, or does not take a change. -/
inductive DatabaseFault where
  | cannotOpen
  | diskError (code : Nat)
  | notDatabase
  /-- It has the head of one, but goes on wrong. The code tells where it was noticed. -/
  | malformed (code : Nat)
  /-- An entry of the schema that cannot be read. -/
  | badEntry (name detail : String)
  | unsupported
  | readOnly
  | full
  | wrongType
  | violation (constraint : Constraint) (detail : String)
  | statement (fault : StatementFault)
  deriving DecidableEq

namespace DatabaseFault

/-- Broken pages or rows, without more to say. -/
abbrev broken : DatabaseFault := malformed 11

def code : DatabaseFault → Nat
  | cannotOpen => 14
  | diskError code => code
  | notDatabase => 26
  | malformed code => code
  | badEntry _ _ => 11
  | unsupported => 1
  | readOnly => 8
  | full => 13
  | wrongType => 20
  | violation constraint _ => constraint.code
  | statement (.missing .collation _) => 257
  | statement .tooLong => 18
  | statement _ => 1

def cause : DatabaseFault → String
  | cannotOpen => "unable to open database file"
  | diskError _ => "disk I/O error"
  | notDatabase => "file is not a database"
  | malformed _ => "database disk image is malformed"
  | badEntry name detail =>
    s!"malformed database schema ({name})" ++ if detail = "" then "" else " - " ++ detail
  | unsupported => "unsupported file format"
  | readOnly => "attempt to write a readonly database"
  | full => "database or disk is full"
  | wrongType => "datatype mismatch"
  | violation .check detail => "CHECK constraint failed: " ++ detail
  | violation .foreignKey _ => "FOREIGN KEY constraint failed"
  | violation .notNull detail => "NOT NULL constraint failed: " ++ detail
  | violation .primaryKey detail | violation .unique detail | violation .rowKey detail =>
    "UNIQUE constraint failed: " ++ detail
  | violation .refusal detail | violation .storage detail => detail
  | statement fault => fault.message

def message (fault : DatabaseFault) : String := s!"(code: {fault.code}) {fault.cause}"

end DatabaseFault

end SignalGraph.Database
