import SignalGraph.Database.Function.Box
import SignalGraph.Database.Function.Time
import SignalGraph.Database.Function.Total

/-! The functions that expressions may call, by their names. -/

set_option autoImplicit false

namespace SignalGraph.Database.Function

open JsonFunction (Argument)

/-- The most arguments that a function can take. -/
def most : Nat := 1000

/-- Functions that need a table of another kind around them. -/
def strangers : List (String × Nat × Nat) :=
  [("match", 2, 2), ("snippet", 0, most), ("offsets", 1, 1), ("matchinfo", 1, 2),
   ("optimize", 1, 1), ("bm25", 0, most), ("highlight", 0, most), ("fts5_get_locale", 0, most)]

/-- Functions that only statements from outside of a database may use. -/
def guarded : List String := ["load_extension", "fts3_tokenizer"]

/-- How many arguments each function takes, at least and at most. -/
def signatures : List (String × Nat × Nat) :=
  [("abs", 1, 1), ("changes", 0, 0), ("char", 0, most), ("coalesce", 2, most),
   ("concat", 1, most), ("concat_ws", 2, most), ("format", 0, most),
   ("fts3_tokenizer", 1, 2), ("fts5", 1, 1), ("fts5_insttoken", 1, 1), ("fts5_locale", 2, 2),
   ("fts5_source_id", 0, 0), ("glob", 2, 2),
   ("hex", 1, 1), ("ifnull", 2, 2), ("iif", 2, most), ("if", 2, most), ("instr", 2, 2),
   ("last_insert_rowid", 0, 0), ("length", 1, 1), ("like", 2, 3), ("likelihood", 2, 2),
   ("likely", 1, 1), ("load_extension", 1, 2), ("lower", 1, 1), ("ltrim", 1, 2), ("max", 2, most),
   ("min", 2, most), ("nullif", 2, 2), ("octet_length", 1, 1), ("printf", 0, most),
   ("quote", 1, 1), ("random", 0, 0), ("randomblob", 1, 1), ("replace", 3, 3), ("round", 1, 2),
   ("rtreecheck", 1, 2), ("rtreedepth", 1, 1), ("rtreenode", 2, 2), ("rtrim", 1, 2), ("sign", 1, 1), ("soundex", 1, 1), ("sqlite_compileoption_get", 1, 1),
   ("sqlite_compileoption_used", 1, 1), ("sqlite_log", 2, 2), ("sqlite_source_id", 0, 0),
   ("sqlite_version", 0, 0), ("substr", 2, 3), ("substring", 2, 3), ("subtype", 1, 1),
   ("total_changes", 0, 0), ("trim", 1, 2), ("typeof", 1, 1), ("unhex", 1, 2), ("unicode", 1, 1),
   ("unistr", 1, 1), ("unistr_quote", 1, 1), ("unlikely", 1, 1), ("upper", 1, 1),
   ("zeroblob", 1, 1)] ++
    strangers ++ TimeFunction.signatures most ++ JsonFunction.signatures most

/-- How many arguments the functions take that only make sense over a window of rows. -/
def windows : List (String × Nat × Nat) :=
  [("row_number", 0, 0), ("rank", 0, 0), ("dense_rank", 0, 0), ("percent_rank", 0, 0),
   ("cume_dist", 0, 0), ("ntile", 1, 1), ("lag", 1, 3), ("lead", 1, 3), ("first_value", 1, 1),
   ("last_value", 1, 1), ("nth_value", 2, 2)]

def takes (entries : List (String × Nat × Nat)) (name : String) (count : Nat) : Bool :=
  entries.any fun entry => entry.1 = name && entry.2.1 ≤ count && count ≤ entry.2.2

def isKnown (name : String) : Bool :=
  (signatures ++ Total.signatures ++ windows).any fun entry => entry.1 = name

/-- Functions whose result may be another one for the same arguments. -/
def isVarying (name : String) : Bool :=
  name ∈ ["random", "randomblob", "changes", "total_changes", "last_insert_rowid"]

/-- Functions whose result depends on more than their arguments: varying ones, and those that have
one result for the whole of a statement. -/
def isCircumstantial (name : String) : Bool :=
  isVarying name || name ∈ ["current_date", "current_time", "current_timestamp", "sqlite_version",
    "sqlite_source_id"]

/-- How many rows were changed: so far by a statement that is running, by the one before, and by all
that are over. -/
structure Tally where
  running : Nat := 0
  last : Nat := 0
  all : Nat := 0

namespace Tally

def count (tally : Tally) : Tally := { tally with running := tally.running + 1 }

/-- A statement is over. -/
def close (tally : Tally) : Tally :=
  { running := 0, last := tally.running, all := tally.all + tally.running }

/-- What happened inside of a statement is over, and its own count goes on. -/
def resume (before after : Tally) : Tally := { before with all := after.all }

end Tally

/-- What functions know beside their arguments. -/
structure Surroundings where
  now : Instant
  lastKey : Int := 0
  tally : Tally := {}

/-- What the functions were built with, as far as it is told. -/
def options : List String :=
  ["ATOMIC_INTRINSICS=1", "DEFAULT_AUTOVACUUM", "DEFAULT_CACHE_SIZE=-2000",
   "DEFAULT_FILE_FORMAT=4", "DEFAULT_FOREIGN_KEYS", "DEFAULT_JOURNAL_SIZE_LIMIT=-1",
   "DEFAULT_MMAP_SIZE=0", "DEFAULT_PAGE_SIZE=4096", "DEFAULT_PCACHE_INITSZ=20",
   "DEFAULT_RECURSIVE_TRIGGERS", "DEFAULT_SECTOR_SIZE=4096", "DEFAULT_SYNCHRONOUS=2",
   "DEFAULT_WAL_AUTOCHECKPOINT=1000", "DEFAULT_WAL_SYNCHRONOUS=2", "DEFAULT_WORKER_THREADS=0",
   "DIRECT_OVERFLOW_READ", "ENABLE_API_ARMOR", "ENABLE_COLUMN_METADATA", "ENABLE_DBSTAT_VTAB",
   "ENABLE_FTS3", "ENABLE_FTS3_PARENTHESIS", "ENABLE_FTS5", "ENABLE_LOAD_EXTENSION",
   "ENABLE_MEMORY_MANAGEMENT", "ENABLE_RTREE", "ENABLE_STAT4", "ENABLE_UNLOCK_NOTIFY",
   "HAVE_ISNAN", "MALLOC_SOFT_LIMIT=1024", "MAX_ATTACHED=10", "MAX_COLUMN=2000",
   "MAX_COMPOUND_SELECT=500", "MAX_DEFAULT_PAGE_SIZE=8192", "MAX_EXPR_DEPTH=1000",
   "MAX_FUNCTION_ARG=1000", "MAX_LENGTH=1000000000", "MAX_LIKE_PATTERN_LENGTH=50000",
   "MAX_MMAP_SIZE=0x7fff0000", "MAX_PAGE_COUNT=0xfffffffe", "MAX_PAGE_SIZE=65536",
   "MAX_SQL_LENGTH=1000000000", "MAX_TRIGGER_DEPTH=1000", "MAX_VARIABLE_NUMBER=32766",
   "MAX_VDBE_OP=250000000", "MAX_WORKER_THREADS=8", "MUTEX_PTHREADS", "SOUNDEX",
   "SYSTEM_MALLOC", "TEMP_STORE=1", "THREADSAFE=1", "USE_URI"]

/-- An option of a name is there; what it is set to need not be told. -/
def hasOption (name : String) : Bool :=
  let name := name.toUpper
  let name := if name.startsWith "SQLITE_" then (name.drop 7).toString else name
  options.any fun entry =>
    let entry := entry.toUpper
    entry.startsWith name && !((entry.toList.drop name.length).head?.any fun c =>
      c.isAlphanum || c = '_')

def typeName : Datum → String
  | .null => "null"
  | .integer _ => "integer"
  | .real _ => "real"
  | .text _ => "text"
  | .blob _ => "blob"

/-- The nearest number with so many digits behind the point. -/
def round (value : Datum) (places : Nat) : Datum :=
  let x := value.toReal
  if (4503599627370496.0 : Binary64).less x.absolute then .ofReal x
  else if places = 0 then
    let half : Binary64 := if x.less (.zero false) then -(0.5 : Binary64) else 0.5
    .real (.ofInt (x + half).truncate)
  else
    let style : RealStyle := { form := .fixed, places, precise := true }
    .real (NumericFront.ofText (style.text x)).toReal

def absolute : Datum → Except StatementFault Datum
  | .null => .ok .null
  | .integer n => if n = leastWord then .error (.domain "integer overflow") else .ok (.integer n.natAbs)
  | value => .ok (.real value.toReal.absolute)

def sign (value : Datum) : Datum :=
  let number := match value with
    | .text text => if (NumericFront.ofText text).complete then value.toNumber else .null
    | .blob _ => .null
    | value => value.toNumber
  match number with
  | .integer n => .integer n.sign
  | .real x => if x == .zero false then .integer 0 else .integer (if x.isNegative then -1 else 1)
  | _ => .null

/-- A value as a statement would have it. -/
def quote (withEscapes : Bool) (value : Datum) : Datum :=
  .text (match value with
    | .null => "NULL"
    | .integer n => toString n
    | .real x => TextFunction.quoteReal x
    | .blob bytes => "X'" ++ TextFunction.hexDigits bytes ++ "'"
    | .text text => String.ofList (Directive.quoted withEscapes (TextFunction.characters text)))

/-- So many zero bytes; a value has a greatest length. -/
def zeros (size : Nat) : Except StatementFault (List UInt8) :=
  if 1000000000 < size then .error .tooLong else .ok (List.replicate size 0)

/-- The version of the functions, as they tell it. -/
def versionName : String := "3.51.3"

def versionMark : String :=
  "2026-03-13 10:38:09 737ae4a34738ffa0c3ff7f9bb18df914dd1cad163f28fd6b6e114a344fe6d618"

/-- A text that knows the language it is in. Nothing is known of the bytes in front. -/
def withLanguage (language text : Datum) : Datum :=
  if language.isNull ∨ language.bytes.head?.all (· = 0) then
    if text.isNull then .null else .text text.asText
  else .blob (List.replicate 16 0 ++ language.bytes ++ [0] ++ text.bytes)

/-- The value of a function that is not told by the other families. -/
def plain (around : Surroundings) (name : String) (arguments : List Datum) :
    Except StatementFault Datum := do
  match name, arguments with
  | "abs", [value] => absolute value
  | "changes", _ => return .integer around.tally.last
  | "total_changes", _ => return .integer around.tally.all
  | "last_insert_rowid", _ => return .integer around.lastKey
  | "char", codes => return TextFunction.ofCodes codes
  | "concat", values => return .text (Bytes.toText (values.flatMap Datum.bytes))
  | "concat_ws", between :: values =>
    if between.isNull then return .null
    else
      let parts := (values.filter fun value => !value.isNull).map Datum.bytes
      return .text (Bytes.toText (parts.intersperse between.bytes).flatten)
  | "format", pattern :: values | "printf", pattern :: values =>
    return Directive.format pattern values
  | "glob", [pattern, value] => TextFunction.glob pattern value
  | "hex", [value] => return .text (TextFunction.hexDigits value.bytes)
  | "instr", [value, needle] => return TextFunction.find value needle
  | "length", [value] => return TextFunction.length value
  | "octet_length", [value] => return TextFunction.byteLength value
  | "like", pattern :: value :: escape => TextFunction.like pattern value escape.head?
  | "likelihood", value :: _ | "likely", [value] | "unlikely", [value] => return value
  | "load_extension", _ => throw (.domain "unsafe use of load_extension()")
  | "lower", [value] => return TextFunction.onText String.toLower value
  | "upper", [value] => return TextFunction.onText String.toUpper value
  | "ltrim", value :: set_ => return TextFunction.trim true false value set_.head?
  | "rtrim", value :: set_ => return TextFunction.trim false true value set_.head?
  | "trim", value :: set_ => return TextFunction.trim true true value set_.head?
  | "quote", [value] => return quote false value
  | "unistr_quote", [value] => return quote true value
  | "random", _ => return .integer around.now.milliseconds
  | "randomblob", [size] => return .blob (← zeros (max 1 size.toInt.toNat))
  | "zeroblob", [size] => return .blob (← zeros size.toInt.toNat)
  | "replace", [value, old, new] => return TextFunction.replace value old new
  | "round", value :: places =>
    if value.isNull || places.any Datum.isNull then return .null
    else return round value (min 30 ((places.head?.map fun n => n.toInt.toNat).getD 0))
  | "sign", [value] => return sign value
  | "soundex", [value] => return TextFunction.soundex value
  | "sqlite_compileoption_get", [number] =>
    let n := number.toInt
    return if n < 0 then .null else ((options[n.toNat]?).map Datum.text).getD .null
  | "sqlite_compileoption_used", [name] =>
    return (name.text?.map fun name => Datum.ofBool (hasOption name)).getD .null
  | "fts5_insttoken", [value] => return value
  | "fts5_locale", [language, text] => return withLanguage language text
  | "fts5_source_id", _ => return .text ("fts5: " ++ versionMark)
  | "rtreecheck", _ => throw (.domain "SQL logic error")
  | "rtreedepth", [node] => BoxFunction.depth node
  | "rtreenode", [directions, node] => return BoxFunction.nodeText directions node
  | "sqlite_source_id", _ => return .text versionMark
  | "sqlite_version", _ => return .text versionName
  | "substr", value :: place :: length | "substring", value :: place :: length =>
    return TextFunction.part value place length.head?
  | "typeof", [value] => return .text (typeName value)
  | "unhex", value :: between =>
    if value.isNull || between.any Datum.isNull then return .null
    else
      let between := (between.head?.map fun value => TextFunction.characters value.asText).getD []
      let digits := TextFunction.characters value.asText
      return ((TextFunction.unhex between digits).map Datum.blob).getD .null
  | "unicode", [value] => return TextFunction.codeOf value
  | "unistr", [value] => TextFunction.unistr value
  | _, _ => return .null

/-- The greatest or least of some values; null if one of them is. Of two least values that agree
the later one counts. -/
def extreme (collation : Collation) (greatest : Bool) (values : List Datum) : Datum :=
  if values.any Datum.isNull then .null
  else
    match values with
    | [] => .null
    | first :: rest => rest.foldl (fun best value =>
        let found := Datum.order collation best value
        let wins := if greatest then found = .lt else found ≠ .lt
        if wins then value else best) first

/-- The value of a function, and whether it is JSON text. Texts are compared as a collation
says. -/
def apply (around : Surroundings) (collation : Collation) (name : String)
    (arguments : List Argument) : Except StatementFault Argument := do
  let values : List Datum := arguments.map fun argument => argument.1
  if TimeFunction.isName name then return (TimeFunction.apply around.now name values, false)
  else if JsonFunction.isName name then JsonFunction.apply name arguments
  else if strangers.any fun entry => entry.1 = name then
    let shown := if name = "match" then "MATCH" else name
    throw (.domain ("unable to use function " ++ shown ++ " in the requested context"))
  else
    match name, values with
    | "max", values => return (extreme collation true values, false)
    | "min", values => return (extreme collation false values, false)
    | "nullif", [a, b] => return (if Datum.order collation a b = .eq then .null else a, false)
    | "subtype", _ => return (.integer (if arguments.any fun entry => entry.2 then 74 else 0), false)
    | name, values => return (← plain around name values, false)

end SignalGraph.Database.Function
