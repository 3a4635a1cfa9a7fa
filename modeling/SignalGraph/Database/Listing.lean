import SignalGraph.Database.Element.Walk
import SignalGraph.Database.Function.Directory
import SignalGraph.Database.Function.Json
import SignalGraph.Database.Opening
import SignalGraph.Database.Resolve
import SignalGraph.Database.Rows

/-! The rows of functions that give rows: the parts of a JSON text, and what a database tells about
itself.
-/

set_option autoImplicit false

namespace SignalGraph.Database.Listing

/-- The parts of a JSON text from the end of a path on, where parts with parts of their own may be
given as bytes. The last value of a row tells whether its own value is JSON, the one before it is the
number of the row. -/
def elements (deep binary : Bool) (arguments : List Datum) :
    Except StatementFault (List RowValues) := do
  let root := arguments.getD 1 (.text "$")
  match arguments with
  | [] => return []
  | source :: _ =>
    if source.isNull then return []
    else
      let element ← JsonFunction.read source
      if root.isNull then return []
      else
        let path := TextFunction.characters root.asText
        if path.head? ≠ some '$' then JsonFunction.badPath path
        else
          match element.walk path deep with
          | .error .absent => return []
          | .error .misspelled => JsonFunction.badPath path
          | .ok stations => stations.zipIdx.mapM fun (station, index) => do
            let isContainer := station.element.isContainer
            let value ← if binary && isContainer then pure (Datum.blob station.element.encode)
              else JsonFunction.datumOf station.element
            return #[station.key, value, .text station.element.typeName,
              if isContainer then .null else value, .integer station.start,
              (station.parent.map fun parent => Datum.integer parent).getD .null,
              .text station.fullPath, .text station.path, source, root, .integer index,
              .ofBool isContainer]

/-- The name of a type; some have only one spelling. -/
def typeName (type : String) : String :=
  if type.toUpper ∈ Column.strictTypes then type.toUpper else type

/-- The type of a column that leans, where none is told. -/
def leaningName : Option Leaning → String
  | none => ""
  | some .text => "TEXT"
  | some .blob => "BLOB"
  | some .integer => "INT"
  | some .real => "REAL"
  | some .numeric => "NUM"

/-- The columns of the key of a table, in their order. -/
def keyColumns (table : Table) : List Nat :=
  match table.keyColumn with
  | some place => [place]
  | none =>
    ((table.indexes.find? fun index => index.origin = .primaryKey).map fun index =>
      index.terms.filterMap IndexTerm.column).getD []

/-- What is told about each column of a table; without the generated ones unless it is asked. -/
def columns (table : Table) (all : Bool) : List (List Datum) :=
  let key := keyColumns table
  let kind (column : Column) : Nat :=
    match column.generated with
    | none => 0
    | some (_, stored) => if stored then 3 else 2
  let shown := table.columns.zipIdx.filter fun (column, _) => all || column.generated.isNone
  let keyPlace (place : Nat) : Nat := ((key.findIdx? (· = place)).map (· + 1)).getD 0
  shown.zipIdx.map fun ((column, place), number) =>
    [.integer number, .text column.name, .text (typeName column.type),
     .ofBool column.notNull.isSome, (column.defaultText.map Datum.text).getD .null,
     .integer (keyPlace place)] ++
      if all then [.integer (kind column)] else []

/-- What is told about each column of a view. -/
def viewColumns (catalog : Catalog) (table : Table) (names : List String) (query : Query)
    (all : Bool) : List (List Datum) :=
  let scope : Scope := { catalog, views := [table.name], tellsDatabase := true }
  match scope.resolveQuery query with
  | .error _ => []
  | .ok (_, found) =>
    let found := if names.length = found.length then
        List.zipWith (fun column name => ({ column with name } : NamedColumn)) found names
      else found
    found.zipIdx.map fun (column, number) =>
      [.integer number, .text column.name, .text (leaningName column.leaning), .integer 0, .null,
       .integer 0] ++ if all then [.integer 0] else []

def tableColumns (catalog : Catalog) (name : String) (all : Bool) : List (List Datum) :=
  match Scope.table? catalog name with
  | none => []
  | some table =>
    match table.form with
    | .view names query => viewColumns catalog table names query all
    | _ => columns table all

def originWord : IndexOrigin → String
  | .created => "c"
  | .unique => "u"
  | .primaryKey => "pk"

def indexes (table : Table) : List (List Datum) :=
  table.indexes.zipIdx.map fun (index, number) =>
    [.integer number, .text index.name, .ofBool index.unique.isSome,
     .text (originWord index.origin), .ofBool index.filter.isSome]

/-- An index by its name, or the key of a table without numbers by the name of the table. -/
def index? (catalog : Catalog) (name : String) : Option (Table × Index) :=
  catalog.index? name <|> (catalog.table? name).bind fun table =>
    if table.ownKey.isNone then none
    else (table.indexes.find? fun index => index.origin = .primaryKey).map fun index =>
      (table, index)

/-- The terms of an index, and behind them if it is asked what tells the rows apart. -/
def indexTerms (table : Table) (index : Index) (all : Bool) : List (List Datum) :=
  let told (place : Option Nat) : List Datum :=
    match place with
    | some place => [.integer place, .text (table.columnName place)]
    | none => [.integer (-2), .null]
  let own := index.terms.map fun term =>
    told term.column ++ if all then
      [.ofBool term.down, .text term.collation, .integer 1] else []
  let covered (place : Nat) : Bool := index.terms.any fun term => term.column = some place
  let behind : List (List Datum) :=
    match table.ownKey with
    | none => [[.integer (-1), .null, .integer 0, .text "BINARY", .integer 0]]
    | some key =>
      let places := if index.origin = .primaryKey then List.range table.columns.length else key
      (places.filter fun place => !covered place).map fun place =>
        told (some place) ++ [.integer 0,
          .text ((table.columns[place]?.map Column.collation).getD "BINARY"), .integer 0]
  (own ++ if all then behind else []).zipIdx.map fun (row, number) => .integer number :: row

def actionWords : ReferenceAction → String
  | .none => "NO ACTION"
  | .restrict => "RESTRICT"
  | .setNull => "SET NULL"
  | .setDefault => "SET DEFAULT"
  | .cascade => "CASCADE"

/-- The references of a table, the latest first. -/
def references (table : Table) : List (List Datum) :=
  table.references.reverse.zipIdx.flatMap fun (rule, number) =>
    rule.columns.zipIdx.map fun (place, index) =>
      [.integer number, .integer index, .text rule.reference.parent,
       .text (table.columnName place),
       ((rule.reference.columns[index]?).map Datum.text).getD .null,
       .text (actionWords rule.reference.onUpdate), .text (actionWords rule.reference.onDelete),
       .text "NONE"]

/-- All tables, or the one of a name. -/
def tables (catalog : Catalog) (asked : Option String) : List (List Datum) :=
  let row (database name type : String) (width : Nat) (own strict : Bool) : List Datum :=
    [.text database, .text name, .text type, .integer width, .ofBool own, .ofBool strict]
  let isMeant (name : String) : Bool := asked.all (sameName name)
  let tables := catalog.tables.reverse.filter fun table => isMeant table.name
  let told := tables.map fun table =>
    let width := (tableColumns catalog table.name true).length
    row "main" table.name (if table.isView then "view" else "table") width table.ownKey.isSome
      table.strict
  let own (database name shown : String) : List (List Datum) :=
    if isMeant name then [row database shown "table" 5 false false] else []
  told ++ own "main" "sqlite_master" "sqlite_schema" ++
    own "temp" "sqlite_temp_master" "sqlite_temp_schema"

/-- What is told about each function, once for each count of arguments. -/
def functions : List (List Datum) :=
  let rows (isOwn : Bool) (entry : Function.DirectoryEntry) : List (List Datum) :=
    let (name, kind, counts) := entry
    counts.map fun count =>
      [.text name, .ofBool isOwn, .text (if kind = .windowed then "w" else "s"), .text "utf8",
       .integer count, .integer (Function.properties isOwn name kind)]
  Function.ownEntries.flatMap (rows true) ++ Function.addedEntries.flatMap (rows false)

/-- The settings that are numbers. The head of a database has some, the others are as a connection
has them. -/
def numbers (pages : Pages) : List (String × Int) :=
  let head (place : Nat) : Int := pages.headNumber place 4
  [("application_id", head 68), ("user_version", head 60), ("schema_version", head 40),
   ("freelist_count", head 36), ("page_count", pages.count), ("page_size", pages.length),
   ("auto_vacuum", if head 52 = 0 then 0 else if head 64 = 0 then 1 else 2),
   ("default_cache_size", if head 48 = 0 then -2000 else head 48), ("cache_size", -2000),
   ("cache_spill", 483), ("max_page_count", 4294967294), ("journal_size_limit", -1),
   ("synchronous", 2), ("busy_timeout", 5000), ("foreign_keys", 1), ("automatic_index", 1),
   ("short_column_names", 1), ("trusted_schema", 1), ("recursive_triggers", 0),
   ("data_version", 1), ("analysis_limit", 0)]

/-- Settings that are switched off, and lists that are empty. -/
def switchedOff : List String :=
  ["cell_size_check", "checkpoint_fullfsync", "count_changes", "defer_foreign_keys",
   "empty_result_callbacks", "full_column_names", "fullfsync", "hard_heap_limit",
   "ignore_check_constraints", "legacy_alter_table", "query_only", "read_uncommitted",
   "reverse_unordered_selects", "secure_delete", "soft_heap_limit", "temp_store", "threads",
   "writable_schema"]

def encodingName : TextEncoding → String
  | .utf8 => "UTF-8"
  | .utf16le => "UTF-16le"
  | .utf16be => "UTF-16be"

/-- The rows of a setting or a list. -/
def settings (pages : Pages) (name : String) : List (List Datum) :=
  match name with
  | "encoding" => [[.text (encodingName pages.encoding)]]
  | "journal_mode" => [[.text "wal"]]
  | "locking_mode" => [[.text "normal"]]
  | "integrity_check" | "quick_check" => [[.text "ok"]]
  | "collation_list" =>
    [[.integer 0, .text "RTRIM"], [.integer 1, .text "NOCASE"], [.integer 2, .text "BINARY"]]
  | "database_list" => [[.integer 0, .text "main", .text ""]]
  | "function_list" => functions
  | "module_list" =>
    (RowFunction.moduleNames ++ ["pragma_module_list"]).map fun name => [.text name]
  | "pragma_list" => RowFunction.settingNames.map fun name => [.text name]
  | "compile_options" => Function.options.map fun option => [.text option]
  | name =>
    match (numbers pages).find? fun entry => entry.1 = name with
    | some (_, number) => [[.integer number]]
    | none => if name ∈ switchedOff then [[.integer 0]] else []

/-- The rows of what a database tells about itself, with what was asked behind each. -/
def aboutDatabase (pages : Pages) (catalog : Catalog) (name : String) (arguments : List Datum) :
    List RowValues :=
  let hidden := ((RowFunction.find? (RowFunction.settingStart ++ name)).map
    fun function => function.arguments).getD []
  let given (word : String) : Option String :=
    ((hidden.findIdx? (· = word)).bind fun place => arguments[place]?).bind fun value =>
      if value.isNull then none else some value.asText
  let asked := (given "arg").getD ""
  let table? := Scope.table? catalog asked
  let ofIndex (all : Bool) : List (List Datum) :=
    ((index? catalog asked).map fun (table, index) => indexTerms table index all).getD []
  let rows := match name with
    | "table_info" => tableColumns catalog asked false
    | "table_xinfo" => tableColumns catalog asked true
    | "table_list" => tables catalog (given "arg")
    | "index_list" => (table?.map indexes).getD []
    | "index_info" => ofIndex false
    | "index_xinfo" => ofIndex true
    | "foreign_key_list" => (table?.map references).getD []
    | name => settings pages name
  let isElsewhere := (given "schema").any fun database => !sameName database "main"
  let rows := if isElsewhere then [] else rows
  let told := (List.range hidden.length).map fun place => arguments.getD place .null
  rows.zipIdx.map fun (row, index) => (row ++ told ++ [Datum.integer (index + 1)]).toArray

/-- The rows of a function. -/
def rows (pages : Pages) (catalog : Catalog) (name : String) (arguments : List Datum) :
    Except StatementFault (List RowValues) :=
  let name := name.toLower
  if name = "json_each" then elements false false arguments
  else if name = "json_tree" then elements true false arguments
  else if name = "jsonb_each" then elements false true arguments
  else if name = "jsonb_tree" then elements true true arguments
  else
    let own := (name.drop RowFunction.settingStart.length).toString
    .ok (aboutDatabase pages catalog own arguments)

end SignalGraph.Database.Listing
