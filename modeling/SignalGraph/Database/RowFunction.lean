import SignalGraph.Database.Catalog

/-! Functions that give rows. Each is a table too, where the arguments are hidden columns. -/

set_option autoImplicit false

namespace SignalGraph.Database

structure RowFunction where
  name : String
  columns : List String
  /-- The hidden columns that the arguments stand for. -/
  arguments : List String := []

namespace RowFunction

/-- The functions for the parts of a JSON text. -/
def ofElements : List RowFunction :=
  ["json_each", "json_tree", "jsonb_each", "jsonb_tree"].map fun name =>
    { name
      columns := ["key", "value", "type", "atom", "id", "parent", "fullkey", "path"]
      arguments := ["json", "root"] }

/-- What is behind the name of a function that tells about the database itself. -/
def settingStart : String := "pragma_"

/-- The functions that tell about tables and other things of a database. -/
def ofSchema : List RowFunction :=
  let aboutTable := ["arg", "schema"]
  let tableColumns := ["cid", "name", "type", "notnull", "dflt_value", "pk"]
  let indexColumns := ["seqno", "cid", "name"]
  [⟨"table_info", tableColumns, aboutTable⟩,
   ⟨"table_xinfo", tableColumns ++ ["hidden"], aboutTable⟩,
   ⟨"table_list", ["schema", "name", "type", "ncol", "wr", "strict"], aboutTable⟩,
   ⟨"index_list", ["seq", "name", "unique", "origin", "partial"], aboutTable⟩,
   ⟨"index_info", indexColumns, aboutTable⟩,
   ⟨"index_xinfo", indexColumns ++ ["desc", "coll", "key"], aboutTable⟩,
   ⟨"foreign_key_list",
     ["id", "seq", "table", "from", "to", "on_update", "on_delete", "match"], aboutTable⟩,
   ⟨"foreign_key_check", ["table", "rowid", "parent", "fkid"], aboutTable⟩,
   ⟨"integrity_check", ["integrity_check"], aboutTable⟩,
   ⟨"quick_check", ["quick_check"], aboutTable⟩,
   ⟨"optimize", ["optimize"], ["arg"]⟩,
   ⟨"database_list", ["seq", "name", "file"], []⟩,
   ⟨"collation_list", ["seq", "name"], []⟩,
   ⟨"function_list", ["name", "builtin", "type", "enc", "narg", "flags"], []⟩,
   ⟨"busy_timeout", ["timeout"], []⟩,
   ⟨"default_cache_size", ["cache_size"], ["schema"]⟩]

/-- The names of all settings and lists, those too that no function stands for. -/
def settingNames : List String :=
  ["analysis_limit", "application_id", "auto_vacuum", "automatic_index", "busy_timeout",
   "cache_size", "cache_spill", "case_sensitive_like", "cell_size_check", "checkpoint_fullfsync",
   "collation_list", "compile_options", "count_changes", "data_version", "database_list",
   "default_cache_size", "defer_foreign_keys", "empty_result_callbacks", "encoding",
   "foreign_key_check", "foreign_key_list", "foreign_keys", "freelist_count",
   "full_column_names", "fullfsync", "function_list", "hard_heap_limit",
   "ignore_check_constraints", "incremental_vacuum", "index_info", "index_list", "index_xinfo",
   "integrity_check", "journal_mode", "journal_size_limit", "legacy_alter_table",
   "locking_mode", "max_page_count", "mmap_size", "module_list", "optimize", "page_count",
   "page_size", "pragma_list", "query_only", "quick_check", "read_uncommitted",
   "recursive_triggers", "reverse_unordered_selects", "schema_version", "secure_delete",
   "short_column_names", "shrink_memory", "soft_heap_limit", "synchronous", "table_info",
   "table_list", "table_xinfo", "temp_store", "temp_store_directory", "threads",
   "trusted_schema", "user_version", "wal_autocheckpoint", "wal_checkpoint", "writable_schema"]

/-- The names of the kinds of tables that are not held as trees of their own. -/
def moduleNames : List String :=
  ["json_each", "json_tree", "jsonb_each", "jsonb_tree", "dbstat", "rtree", "rtree_i32", "fts3",
   "fts4", "fts3tokenize", "fts4aux", "fts5", "fts5vocab"]

/-- The settings of one value each that belong to a database. -/
def ownSettings : List String :=
  ["auto_vacuum", "cache_size", "cache_spill", "journal_mode", "journal_size_limit",
   "locking_mode", "max_page_count", "page_count", "page_size", "synchronous"]

/-- The settings and lists of one column each that belong to no database. -/
def otherSettings : List String :=
  ["analysis_limit", "application_id", "automatic_index", "cell_size_check",
   "checkpoint_fullfsync", "compile_options", "count_changes", "data_version",
   "defer_foreign_keys", "empty_result_callbacks", "encoding", "foreign_keys",
   "freelist_count", "full_column_names", "fullfsync", "hard_heap_limit",
   "ignore_check_constraints", "legacy_alter_table", "query_only", "read_uncommitted",
   "recursive_triggers", "reverse_unordered_selects", "schema_version", "secure_delete",
   "short_column_names", "soft_heap_limit", "temp_store", "threads", "trusted_schema",
   "user_version", "writable_schema"]

/-- The names of the lists that have one column called after what is in it. -/
def nameLists : List String := ["module_list", "pragma_list"]

def aboutDatabase : List RowFunction :=
  let setting (arguments : List String) (name : String) : RowFunction :=
    { name, columns := [name], arguments }
  let named (function : RowFunction) : RowFunction :=
    { function with name := settingStart ++ function.name }
  (ofSchema ++ ownSettings.map (setting ["schema"]) ++ otherSettings.map (setting []) ++
    nameLists.map (fun name => ({ name, columns := ["name"] } : RowFunction))).map named

def find? (name : String) : Option RowFunction :=
  (ofElements ++ aboutDatabase).find? fun function => sameName function.name name

/-- The place of the value that JSON may stand in, among the columns. -/
def markedColumn? (function : RowFunction) : Option Nat :=
  if function.arguments.head? = some "json" then some 1 else none

end RowFunction

end SignalGraph.Database
