import SignalGraph.Database.Journal
import SignalGraph.Database.Log
import SignalGraph.Database.Node
import SignalGraph.Database.TextEncoding

/-! The pages of a database from the files that hold it, and the file from the pages. -/

set_option autoImplicit false

namespace SignalGraph.Database

/-- The file of a database, and those beside it. -/
structure DatabaseFiles where
  main : ByteArray
  journal : ByteArray
  log : ByteArray

namespace Pages

/-- What a file begins with. -/
def signature : List UInt8 := "SQLite format 3\x00".toUTF8.data.toList

def lengths : List Nat := [512, 1024, 2048, 4096, 8192, 16384, 32768, 65536]

/-- The length of the pages that a head tells. -/
def toldLength (bytes : ByteArray) : Nat := Page.number bytes 16 1 * 256 + Page.number bytes 17 1 * 65536

/-- The pages of a new database. -/
def fresh : Pages :=
  let length := 4096
  let number := FixedWidth.encode 4
  let head := signature ++ FixedWidth.encode 2 length ++ [2, 2, 0, 64, 32, 32] ++
    [1, 1, 0, 0, 1, 4, 0, 0, 1, 0, 0, 0].flatMap number ++ List.replicate 20 0 ++ number 1 ++
    number 3046000
  let pages : Pages := ⟨length, length, #[Page.put (Page.empty length) 0 head]⟩
  pages.setPage 1 (Node.build pages 1 .table [] none)

/-- Cut bytes into pages, the last filled up with zeros. -/
def cut (bytes : ByteArray) (length count : Nat) : Array ByteArray :=
  (Array.range count).map fun index =>
    let page := bytes.extract (index * length) ((index + 1) * length)
    page ++ Page.empty (length - page.size)

/-- The page with a number as a log has it, at the length of the others. -/
def logged? (contents : Log.Contents) (length number : Nat) : Option ByteArray :=
  (contents.pages.lookup number).map fun page =>
    let page := page.extract 0 length
    page ++ Page.empty (length - page.size)

/-- The pages that a head, the pages in the file and those in a log make. The count in the head
counts if it was written with the last change. -/
def assemble (file : RawFile) (contents : Option Log.Contents) : Except DatabaseFault Pages :=
  let first := ((contents.bind fun contents => contents.pages.lookup 1).getD
    (file.bytes.extract 0 65536))
  let number := Page.number first
  let length := toldLength first
  let usable := length - number 20 1
  let present := match contents with
    | some contents => contents.count
    | none => (file.size + length - 1) / length
  let count := if number 24 4 = number 92 4 ∧ number 28 4 ≠ 0 then number 28 4 else present
  if Page.slice first 0 16 ≠ signature ∨ 2 < number 19 1 ∨
      Page.slice first 21 3 ≠ [64, 32, 32] ∨ length ∉ lengths then
    .error .notDatabase
  else if present < count then .error .broken
  else if usable < 480 then .error .notDatabase
  else
    let content := cut file.bytes length count
    let content := match contents with
      | some contents => content.mapIdx fun index page =>
          (logged? contents length (index + 1)).getD page
      | none => content
    .ok ⟨length, usable, content⟩

/-- The pages of a database. A file of one byte counts as empty, and an empty one is a new
database, whatever is beside it. -/
def ofFiles (files : DatabaseFiles) : Except DatabaseFault Pages := do
  if files.main.size ≤ 1 then return fresh
  else
    let told := toldLength files.main
    let file := Journal.restore files.journal
      ⟨files.main, files.main.size, if told ∈ lengths then told else 4096⟩
    if file.size ≤ 1 then return fresh
    else assemble file (← Log.contents? files.log)

/-- Changes of the file go to a log already: the head says so, or there is one. -/
def hasLog (pages : Pages) (files : DatabaseFiles) : Bool :=
  pages.headNumber 19 1 = 2 || files.log.size ≠ 0

/-- The format of the schema, how texts are written, and who may write, as the head tells. -/
def schemaFormat (pages : Pages) : Nat := pages.headNumber 47 1

def encoding (pages : Pages) : TextEncoding :=
  match pages.headNumber 59 1 % 4 with
  | 2 => .utf16le
  | 3 => .utf16be
  | _ => .utf8

def isReadOnly (pages : Pages) : Bool := 2 < pages.headNumber 18 1

/-- The file with all the pages in it, marked as changed once more. -/
def toBytes (pages : Pages) : ByteArray :=
  let change := (pages.headNumber 24 4 + 1) % power 2 32
  let pages := (pages.setHeadNumber 24 4 change).setHeadNumber 92 4 change
  let pages := (pages.setHeadNumber 28 4 pages.count).setHeadNumber 18 2 514
  pages.content.foldl (· ++ ·) .empty

end Pages

end SignalGraph.Database
