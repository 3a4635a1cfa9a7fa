/-! The functions as a database tells about them. -/

set_option autoImplicit false

namespace SignalGraph.Database.Function

inductive DirectoryKind where
  | plain
  | windowed
  deriving DecidableEq

/-- The name of a function, its kind and the counts of arguments that it takes. A count below zero
stands for any number: from none, from one for -3, and from two for -4. -/
abbrev DirectoryEntry := String × DirectoryKind × List Int

/-- The functions that are always there. -/
def ownEntries : List DirectoryEntry :=
  [("group_concat", .windowed, [1, 2]), ("json_type", .plain, [1, 2]),
   ("jsonb_set", .plain, [-1]), ("julianday", .plain, [-1]), ("ntile", .windowed, [1]),
   ("nullif", .plain, [2]), ("sqlite_compileoption_get", .plain, [1]),
   ("json_valid", .plain, [1, 2]), ("json_quote", .plain, [1]), ("json_patch", .plain, [2]),
   ("->", .plain, [2]), ("json_array", .plain, [-1]), ("current_timestamp", .plain, [0]),
   ("sqlite_compileoption_used", .plain, [1]), ("json_remove", .plain, [-1]),
   ("json_pretty", .plain, [1, 2]), ("jsonb_patch", .plain, [2]), ("json_object", .plain, [-1]),
   ("json_insert", .plain, [-1]), ("->>", .plain, [2]), ("jsonb_array", .plain, [-1]),
   ("sum", .windowed, [1]), ("quote", .plain, [1]), ("printf", .plain, [-1]),
   ("likelihood", .plain, [2]), ("json_replace", .plain, [-1]), ("jsonb_remove", .plain, [-1]),
   ("jsonb_object", .plain, [-1]), ("jsonb_insert", .plain, [-1]), ("json_extract", .plain, [-1]),
   ("last_value", .windowed, [1]), ("rank", .windowed, [0]), ("sign", .plain, [1]),
   ("round", .plain, [1, 2]), ("rtrim", .plain, [1, 2]), ("jsonb_replace", .plain, [-1]),
   ("jsonb_extract", .plain, [-1]), ("nth_value", .windowed, [2]), ("random", .plain, [0]),
   ("trim", .plain, [1, 2]), ("time", .plain, [-1]), ("total", .windowed, [1]),
   ("substr", .plain, [2, 3]), ("replace", .plain, [3]), ("unhex", .plain, [1, 2]),
   ("upper", .plain, [1]), ("subtype", .plain, [1]), ("typeof", .plain, [1]),
   ("load_extension", .plain, [1, 2]), ("soundex", .plain, [1]),
   ("json_group_array", .windowed, [1]), ("avg", .windowed, [1]), ("unistr", .plain, [1]),
   ("abs", .plain, [1]), ("octet_length", .plain, [1]), ("json_group_object", .windowed, [2]),
   ("jsonb_group_array", .windowed, [1]), ("json_array_length", .plain, [1, 2]),
   ("strftime", .plain, [-1]), ("substring", .plain, [2, 3]), ("randomblob", .plain, [1]),
   ("unicode", .plain, [1]), ("jsonb_group_object", .windowed, [2]), ("timediff", .plain, [2]),
   ("percent_rank", .windowed, [0]), ("row_number", .windowed, [0]),
   ("string_agg", .windowed, [2]), ("last_insert_rowid", .plain, [0]),
   ("sqlite_log", .plain, [2]), ("unlikely", .plain, [1]), ("json_error_position", .plain, [1]),
   ("char", .plain, [-1]), ("unixepoch", .plain, [-1]), ("count", .windowed, [0, 1]),
   ("date", .plain, [-1]), ("concat", .plain, [-3]), ("total_changes", .plain, [0]),
   ("changes", .plain, [0]), ("unistr_quote", .plain, [1]), ("sqlite_version", .plain, [0]),
   ("if", .plain, [-4]), ("coalesce", .plain, [-4]), ("glob", .plain, [2]),
   ("zeroblob", .plain, [1]), ("hex", .plain, [1]), ("iif", .plain, [-4]),
   ("sqlite_source_id", .plain, [0]), ("concat_ws", .plain, [-4]), ("format", .plain, [-1]),
   ("datetime", .plain, [-1]), ("cume_dist", .windowed, [0]), ("instr", .plain, [2]),
   ("json", .plain, [1]), ("dense_rank", .windowed, [0]), ("ifnull", .plain, [2]),
   ("jsonb", .plain, [1]), ("current_date", .plain, [0]), ("current_time", .plain, [0]),
   ("lag", .windowed, [1, 3, 2]), ("like", .plain, [2, 3]), ("max", .plain, [-3]),
   ("max", .windowed, [1]), ("min", .plain, [-3]), ("min", .windowed, [1]),
   ("lead", .windowed, [1, 3, 2]), ("lower", .plain, [1]), ("ltrim", .plain, [1, 2]),
   ("first_value", .windowed, [1]), ("length", .plain, [1]), ("likely", .plain, [1]),
   ("json_set", .plain, [-1])]

/-- The functions that come with tables of other kinds. -/
def addedEntries : List DirectoryEntry :=
  [("rtreedepth", .plain, [1]), ("match", .plain, [2]), ("snippet", .plain, [-1]),
   ("fts5_source_id", .plain, [0]), ("offsets", .plain, [1]), ("matchinfo", .plain, [2, 1]),
   ("optimize", .plain, [1]), ("rtreecheck", .plain, [-1]), ("rtreenode", .plain, [2]),
   ("highlight", .plain, [-1]), ("bm25", .plain, [-1]), ("fts5_get_locale", .plain, [-1]),
   ("fts3_tokenizer", .plain, [2, 1]), ("fts5_locale", .plain, [2]),
   ("fts5_insttoken", .plain, [1]), ("fts5", .plain, [1])]

/-- Functions that can give or take values of which it is known that they are JSON. -/
def marking : List String :=
  ["jsonb_set", "json_quote", "json_array", "json_object", "json_insert", "jsonb_array",
   "json_replace", "jsonb_object", "jsonb_insert", "jsonb_replace", "json_group_array",
   "json_group_object", "jsonb_group_array", "jsonb_group_object", "json_set", "subtype"]

/-- Functions whose result may be another one the next time. -/
def unsteady : List String :=
  ["sqlite_compileoption_get", "sqlite_compileoption_used", "current_timestamp", "current_date",
   "current_time", "random", "randomblob", "last_insert_rowid", "total_changes", "changes",
   "sqlite_version", "sqlite_source_id"]

/-- What is told of a function in one number: a sum of single properties. -/
def properties (isOwn : Bool) (name : String) (kind : DirectoryKind) : Nat :=
  let steady := 2048
  let direct := 524288
  let marks := 1048576
  let harmless := 2097152
  if name = "load_extension" ∨ name = "fts3_tokenizer" then direct
  else if isOwn then
    if name ∈ marking then harmless + marks + steady
    else if kind = .windowed ∨ name ∈ unsteady then harmless
    else harmless + steady
  else if name = "fts5_source_id" then harmless + steady
  else if name = "fts5_locale" then harmless + marks
  else if name = "fts5_insttoken" then harmless
  else 0

end SignalGraph.Database.Function
