import SignalGraph.Database.Pages

/-! What a page of a tree holds: cells in order, and pages below it.

The rows of a table go by a number, those of an index by what they hold. A page without children
holds rows; the cells of a page with children have a child in front, and one more child comes
after the last cell. A row that is too long goes on in pages of its own.
-/

set_option autoImplicit false

namespace SignalGraph.Database

inductive RowKind where
  | table
  | index
  deriving DecidableEq

/-- The bytes of a row that lie in the page of the row itself; the others overflow. -/
def RowKind.localLength (kind : RowKind) (usable length : Nat) : Nat :=
  let most := match kind with
    | .table => usable - 35
    | .index => (usable - 12) * 64 / 255 - 23
  let least := (usable - 12) * 32 / 255 - 23
  if length ≤ most then length
  else
    let rounded := least + (length - least) % (usable - 4)
    if rounded ≤ most then rounded else least

structure Cell where
  /-- The page of the rows before this one, if the page has children. -/
  child : Nat
  /-- The number of the row; zero in an index. -/
  key : Int
  /-- The length of the row, and its bytes in this page. -/
  length : Nat
  here : List UInt8
  /-- The page where the row goes on, or zero. -/
  next : Nat
  /-- The bytes that the cell takes. -/
  size : Nat

structure Node where
  number : Nat
  page : ByteArray
  kind : RowKind
  isLeaf : Bool
  cells : Nat

namespace Node

/-- Where the head of the page begins; the first page has the head of the file before it. -/
def start (node : Node) : Nat := if node.number = 1 then 100 else 0

def headLength (node : Node) : Nat := if node.isLeaf then 8 else 12

/-- What a page says about itself in its first byte. -/
def kind? (flag : Nat) : Option (RowKind × Bool) :=
  if flag = 2 then some (.index, false)
  else if flag = 5 then some (.table, false)
  else if flag = 10 then some (.index, true)
  else if flag = 13 then some (.table, true)
  else none

def flag : RowKind → Bool → UInt8
  | .index, false => 2
  | .table, false => 5
  | .index, true => 10
  | .table, true => 13

def ofPage? (pages : Pages) (number : Nat) : Except DatabaseFault Node := do
  let page ← pages.page? number
  let start := if number = 1 then 100 else 0
  match kind? (Page.number page start 1) with
  | none => throw .broken
  | some (kind, isLeaf) =>
    let cells := Page.number page (start + 3) 2
    if (pages.length - 8) / 6 < cells then throw .broken
    else return { number, page, kind, isLeaf, cells }

/-- The child after the last cell. -/
def last (node : Node) : Nat := Page.number node.page (node.start + 8) 4

/-- Where a cell begins in the page. -/
def place (node : Node) (index : Nat) : Nat :=
  Page.number node.page (node.start + node.headLength + 2 * index) 2

/-- Numbers at a place of the page, one after another, and the bytes they take. -/
def varints? (node : Node) : Nat → Nat → Except DatabaseFault (List Nat × Nat)
  | _, 0 => .ok ([], 0)
  | place, count + 1 => do
    let bytes := Page.slice node.page place 9
    match Varint.decode? bytes with
    | none => throw .broken
    | some (n, rest) =>
      let size := bytes.length - rest.length
      let (others, more) ← varints? node (place + size) count
      return (n :: others, size + more)

def cell? (pages : Pages) (node : Node) (index : Nat) : Except DatabaseFault Cell := do
  let place := node.place index
  let ahead := if node.isLeaf then 0 else 4
  let child := if node.isLeaf then 0 else Page.number node.page place 4
  match node.kind, node.isLeaf with
  | .table, false =>
    let (numbers, size) ← node.varints? (place + ahead) 1
    let key := FixedWidth.signed 64 (numbers.headD 0)
    return { child, key, length := 0, here := [], next := 0, size := ahead + size }
  | kind, _ =>
    let (numbers, size) ← node.varints? (place + ahead) (if kind = .table then 2 else 1)
    let length := numbers.headD 0
    let key := if kind = .table then FixedWidth.signed 64 (numbers.getD 1 0) else 0
    let here := kind.localLength pages.usable length
    let from_ := place + ahead + size
    let more := if here = length then 0 else 4
    let room := if more = 0 then pages.length else pages.usable
    if pages.count * pages.length < length ∨ room < from_ + here then throw .broken
    else
      return { child, key, length, here := Page.slice node.page from_ here
               next := if more = 0 then 0 else Page.number node.page (from_ + here) 4
               size := max 4 (ahead + size + here + more) }

/-- The bytes of a cell as they stand in the page. -/
def cellBytes? (pages : Pages) (node : Node) (index : Nat) : Except DatabaseFault (List UInt8) := do
  return Page.slice node.page (node.place index) (← node.cell? pages index).size

/-- All cells as they are moved into other pages. Bytes behind those that are in use do not go
along: the root of a tree has zeros for them, and another page may not have any. -/
def allCells? (pages : Pages) (node : Node) (isRoot : Bool) :
    Except DatabaseFault (List (List UInt8)) :=
  (List.range node.cells).mapM fun index => do
    let bytes ← node.cellBytes? pages index
    let kept := pages.usable - node.place index
    if bytes.length ≤ kept then return bytes
    else if isRoot then return bytes.take kept ++ List.replicate (bytes.length - kept) 0
    else throw .broken

/-- The child before a cell, or the one after the last. -/
def child? (node : Node) (index : Nat) : Nat :=
  if index < node.cells then Page.number node.page (node.place index) 4 else node.last

/-- Where the cells begin that lie at the end of the page. -/
def contentStart (node : Node) : Nat :=
  let start := Page.number node.page (node.start + 5) 2
  if start = 0 then 65536 else start

/-- The bytes in the chain of gaps between cells, which has to go forward. -/
def gapBytes? (usable : Nat) (page : ByteArray) : Nat → Nat → Except DatabaseFault Nat
  | 0, _ => .error .broken
  | fuel + 1, place =>
    if usable - 4 < place then .error .broken
    else
      let next := Page.number page place 2
      let size := Page.number page (place + 2) 2
      if next ≤ place + size + 3 then
        if 0 < next ∨ usable < place + size then .error .broken else .ok size
      else do return size + (← gapBytes? usable page fuel next)

/-- The bytes of the page that are free for another cell and its place. -/
def room? (usable : Nat) (node : Node) : Except DatabaseFault Nat := do
  let top := node.contentStart
  let first := node.start + node.headLength + 2 * node.cells
  let gap := Page.number node.page (node.start + 1) 2
  let gaps ←
    if gap = 0 then pure 0
    else if gap < top then throw .broken
    else gapBytes? usable node.page node.page.size gap
  let free := Page.number node.page (node.start + 7) 1 + top + gaps
  if usable < free ∨ free < first then throw .broken else return free - first

/-- The places of cells that follow each other. -/
def places (start : Nat) : List (List UInt8) → List Nat
  | [] => []
  | cell :: rest => start :: places (start + cell.length) rest

/-- What the cells and their places take. -/
def sizeOf (cells : List (List UInt8)) : Nat :=
  cells.foldl (fun size cell => size + cell.length + 2) 0

/-- The bytes of a page with these cells, and the child after them if it has children. The cells
are at the end of what is in use. -/
def build (pages : Pages) (number : Nat) (kind : RowKind) (cells : List (List UInt8))
    (last : Option Nat) : ByteArray :=
  let before := match pages.content[0]? with
    | some page => if number = 1 then Page.slice page 0 100 else []
    | none => []
  let content := cells.flatten
  let top := pages.usable - content.length
  let front := before ++ flag kind last.isNone :: 0 :: 0 ::
    (FixedWidth.encode 2 cells.length ++ FixedWidth.encode 2 top ++ 0 ::
      ((last.map (FixedWidth.encode 4)).getD [] ++
        (places top cells).flatMap (FixedWidth.encode 2)))
  ⟨(front ++ List.replicate (top - front.length) 0 ++ content ++
    List.replicate (pages.length - pages.usable) 0).toArray⟩

end Node

namespace Pages

/-- So many bytes from a chain of overflow pages. -/
def chain? (pages : Pages) : Nat → Nat → Nat → Except DatabaseFault (List UInt8)
  | _, _, 0 => .ok []
  | 0, _, _ + 1 => .error .broken
  | fuel + 1, number, length + 1 => do
    let page ← pages.page? number
    let part := Page.slice page 4 (min (pages.usable - 4) (length + 1))
    return part ++ (← chain? pages fuel (Page.number page 0 4) (length + 1 - part.length))

/-- All the bytes of a row. -/
def payload? (pages : Pages) (cell : Cell) : Except DatabaseFault (List UInt8) := do
  return cell.here ++ (← pages.chain? (pages.count + 1) cell.next (cell.length - cell.here.length))

end Pages

namespace Paging

/-- Overflow pages for bytes, each with the number of the next in front. -/
def addChain : Nat → List UInt8 → Paging Nat
  | 0, _ => return 0
  | _ + 1, [] => return 0
  | fuel + 1, bytes => do
    let number ← allocate 0
    let room := (← get).usable - 4
    let next ← addChain fuel (bytes.drop room)
    let page := Page.put (Page.empty (← get).length) 0 (FixedWidth.encode 4 next ++ bytes.take room)
    write number page
    return number

def releaseChain : Nat → Nat → Paging Unit
  | 0, _ => return
  | _ + 1, 0 => return
  | fuel + 1, number => do
    let page ← (← get).page? number
    release number
    releaseChain fuel (Page.number page 0 4)

/-- The cell of a row, for a page without children. No cell is shorter than four bytes. -/
def makeCell (kind : RowKind) (key : Int) (payload : List UInt8) : Paging (List UInt8) := do
  let length := payload.length
  let here := kind.localLength (← get).usable length
  let number := match kind with
    | .table => Varint.encode (FixedWidth.unsigned 64 key)
    | .index => []
  let cell := Varint.encode length ++ number ++ payload.take here
  if here = length then return cell ++ List.replicate (4 - cell.length) 0
  else return cell ++ FixedWidth.encode 4 (← addChain length (payload.drop here))

end Paging

end SignalGraph.Database
