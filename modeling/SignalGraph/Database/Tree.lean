import SignalGraph.Database.Flow
import SignalGraph.Database.Node
import SignalGraph.Database.Record

/-! Trees of pages: going through the rows, looking for one, adding and taking away.

The rows of a table are in the order of their numbers. The rows of an index are records, and the
columns say in which order they go.
-/

set_option autoImplicit false

namespace SignalGraph.Database

structure Row where
  /-- The number of the row; zero in an index. -/
  key : Int
  payload : List UInt8

/-- In which order the rows of an index go: how the values of each column are compared, and
whether the greater comes first. Values without a column of their own go by their plain order. -/
abbrev KeyOrder := List (Collation × Bool)

/-- The order of two records, as far as the shorter goes. -/
def KeyOrder.compare : KeyOrder → List Datum → List Datum → Ordering
  | columns, a :: as, b :: bs =>
    let (collation, down) := columns.headD (.binary, false)
    match Datum.order collation a b with
    | .eq => KeyOrder.compare (columns.drop 1) as bs
    | other => if down then other.swap else other
  | _, _, _ => .eq

namespace Pages

/-- The levels that a tree may have. -/
def levelLimit : Nat := 20

/-- A page of a tree. All pages are of one kind, and only the root of a tree may be empty. -/
def node? (pages : Pages) (kind : RowKind) (isRoot : Bool) (number : Nat) :
    Except DatabaseFault Node := do
  let node ← Node.ofPage? pages number
  if node.kind ≠ kind then throw .broken
  else if node.cells = 0 ∧ (¬isRoot ∨ (¬node.isLeaf ∧ number ≠ 1)) then throw .broken
  else return node

/-- The rows below a page, in order. -/
def rowsBelow? (pages : Pages) (kind : RowKind) :
    Nat → Bool → Nat → Except DatabaseFault (List Row)
  | 0, _, _ => .error .broken
  | fuel + 1, isRoot, number => do
    let node ← pages.node? kind isRoot number
    let own (index : Nat) : Except DatabaseFault Row := do
      let cell ← node.cell? pages index
      return ⟨cell.key, ← pages.payload? cell⟩
    let parts ← (List.range node.cells).mapM fun index => do
      if node.isLeaf then return [← own index]
      else
        let before ← rowsBelow? pages kind fuel false (node.child? index)
        match kind with
        | .table => return before
        | .index => return before ++ [← own index]
    let after ← if node.isLeaf then pure [] else rowsBelow? pages kind fuel false node.last
    return parts.flatten ++ after

/-- The rows below a page one after the other; a page is looked at when its rows come. -/
def rowFlow (pages : Pages) (kind : RowKind) : Nat → Bool → Nat → Flow DatabaseFault Row
  | 0, _, _ => .halt .broken
  | fuel + 1, isRoot, number =>
    match pages.node? kind isRoot number with
    | .error fault => .halt fault
    | .ok node =>
      let own (index : Nat) : Flow DatabaseFault Row :=
        Flow.ofExcept (do
          let cell ← node.cell? pages index
          return Flow.single ⟨cell.key, ← pages.payload? cell⟩)
      let part (index : Nat) : Flow DatabaseFault Row :=
        if node.isLeaf then own index
        else
          let before := rowFlow pages kind fuel false (node.child? index)
          match kind with
          | .table => before
          | .index => before.append fun _ => own index
      ((Flow.ofList (List.range node.cells)).flatMap part).append fun _ =>
        if node.isLeaf then .done else rowFlow pages kind fuel false node.last

/-- All rows of a tree. -/
def rows? (pages : Pages) (kind : RowKind) (root : Nat) : Except DatabaseFault (List Row) :=
  pages.rowsBelow? kind levelLimit true root

/-- The number of the last row. -/
def lastKeyBelow? (pages : Pages) : Nat → Bool → Nat → Except DatabaseFault (Option Int)
  | 0, _, _ => .error .broken
  | fuel + 1, isRoot, number => do
    let node ← pages.node? .table isRoot number
    if node.isLeaf then
      if node.cells = 0 then return none else return some (← node.cell? pages (node.cells - 1)).key
    else lastKeyBelow? pages fuel false node.last

def lastKey? (pages : Pages) (root : Nat) : Except DatabaseFault (Option Int) :=
  pages.lastKeyBelow? levelLimit true root

/-- The first cell, between two places, that does not come before what is looked for, and
whether it is that. The search halves what is left. -/
def seek? (side : Nat → Except DatabaseFault Ordering) :
    Nat → Nat → Nat → Except DatabaseFault (Nat × Bool)
  | 0, low, _ => .ok (low, false)
  | fuel + 1, low, high => do
    if high ≤ low then return (low, false)
    else
      let middle := (low + high - 1) / 2
      match ← side middle with
      | .eq => return (middle, true)
      | .lt => seek? side fuel (middle + 1) high
      | .gt => seek? side fuel low middle

/-- Where the cell of a row is in a page, or should be. -/
def sideOfKey (pages : Pages) (node : Node) (key : Int) (index : Nat) :
    Except DatabaseFault Ordering := do
  return compare (← node.cell? pages index).key key

def recordOf? (pages : Pages) (encoding : TextEncoding) (cell : Cell) :
    Except DatabaseFault (List Datum) := do
  match Record.decode? encoding (← pages.payload? cell) with
  | some record => return record
  | none => throw .broken

def sideOfRecord (pages : Pages) (encoding : TextEncoding) (order : KeyOrder) (node : Node)
    (record : List Datum) (index : Nat) : Except DatabaseFault Ordering := do
  return order.compare (← pages.recordOf? encoding (← node.cell? pages index)) record

/-- The row of a table with a number. -/
def findRow? (pages : Pages) (key : Int) : Nat → Bool → Nat → Except DatabaseFault (Option Row)
  | 0, _, _ => .error .broken
  | fuel + 1, isRoot, number => do
    let node ← pages.node? .table isRoot number
    let (index, found) ← seek? (pages.sideOfKey node key) (node.cells + 1) 0 node.cells
    if node.isLeaf then
      if found then
        let cell ← node.cell? pages index
        return some ⟨cell.key, ← pages.payload? cell⟩
      else return none
    else findRow? pages key fuel false (node.child? index)

def row? (pages : Pages) (root : Nat) (key : Int) : Except DatabaseFault (Option Row) :=
  pages.findRow? key levelLimit true root

/-- A record of an index that agrees with another one as far as the shorter goes. -/
def findRecord? (pages : Pages) (encoding : TextEncoding) (order : KeyOrder)
    (record : List Datum) : Nat → Bool → Nat → Except DatabaseFault (Option (List Datum))
  | 0, _, _ => .error .broken
  | fuel + 1, isRoot, number => do
    let node ← pages.node? .index isRoot number
    let (index, found) ←
      seek? (pages.sideOfRecord encoding order node record) (node.cells + 1) 0 node.cells
    if found then return some (← pages.recordOf? encoding (← node.cell? pages index))
    else if node.isLeaf then return none
    else findRecord? pages encoding order record fuel false (node.child? index)

def record? (pages : Pages) (encoding : TextEncoding) (order : KeyOrder) (root : Nat)
    (record : List Datum) : Except DatabaseFault (Option (List Datum)) :=
  pages.findRecord? encoding order record levelLimit true root

/-- The records of an index, in order. -/
def records? (pages : Pages) (encoding : TextEncoding) (root : Nat) :
    Except DatabaseFault (List (List Datum)) := do
  (← pages.rows? .index root).mapM fun row =>
    match Record.decode? encoding row.payload with
    | some record => return record
    | none => throw .broken

end Pages

namespace Paging

/-- What became of a page that had to be split: more pages, each with the cell in front of it,
without its child. -/
abbrev Split := List (List UInt8 × Nat)

def bytesOf (number : Nat) : List UInt8 := FixedWidth.encode 4 number

/-- What stands behind a page of rows of a table: the number of its last row. -/
def lastNumber (cells : List (List UInt8)) : List UInt8 :=
  match Varint.decode? (cells.getLast?.getD []) with
  | some (_, rest) => (Varint.decode? rest).elim [] fun (_, after) =>
      rest.take (rest.length - after.length)
  | none => []

/-- How many cells fit into a page; one is taken in any case. -/
def fitting (room : Nat) (cells : List (List UInt8)) : Nat :=
  let count := (List.range cells.length).filter fun count =>
    Node.sizeOf (cells.take (count + 1)) ≤ room
  max 1 count.length

/-- Cells as pages take them, each part with the cell that stands behind it. The rows of a table
all stay in pages without children; elsewhere a cell between two pages goes up. -/
def partition (keepsAll : Bool) (room : Nat) :
    Nat → List (List UInt8) → List (List (List UInt8) × List UInt8)
  | 0, cells => [(cells, [])]
  | fuel + 1, cells =>
    if Node.sizeOf cells ≤ room then [(cells, [])]
    else
      let count := fitting room cells
      if keepsAll then
        let part := cells.take count
        if cells.length ≤ count then [(cells, [])]
        else (part, lastNumber part) :: partition keepsAll room fuel (cells.drop count)
      else
        let count := min count (cells.length - 2)
        (cells.take count, cells.getD count []) ::
          partition keepsAll room fuel (cells.drop (count + 1))

/-- Cells that lead to pages, and the page behind them. -/
def linked : Nat → Split → List (List UInt8) × Nat
  | first, [] => ([], first)
  | first, (between, next) :: rest =>
    let (cells, last) := linked next rest
    ((bytesOf first ++ between) :: cells, last)

/-- Write the cells of a page, in several pages if there are too many. The root of a tree stays
where it is: what does not fit goes below it. -/
def writeCells (isRoot : Bool) (number : Nat) (kind : RowKind) (cells : List (List UInt8))
    (last : Option Nat) : Paging Split := do
  let pages ← get
  let head := if last.isNone then 8 else 12
  let start := if number = 1 then 100 else 0
  if Node.sizeOf cells + head + start ≤ pages.usable then
    write number (Node.build pages number kind cells last)
    return []
  else
    let keepsAll := last.isNone && kind = .table
    let parts := partition keepsAll (pages.usable - head) cells.length cells
    let places ← parts.zipIdx.mapM fun (_, index) =>
      if index = 0 ∧ ¬isRoot then return number else allocate number
    (parts.zip places).zipIdx.forM fun (((part, between), place), index) => do
      let behind := last.map fun last =>
        if index + 1 = parts.length then last else FixedWidth.decode (between.take 4)
      write place (Node.build (← get) place kind part behind)
    let between := (parts.dropLast).map fun part =>
      if last.isSome then part.2.drop 4 else part.2
    let split := between.zip (places.drop 1)
    if isRoot then
      let (cells, last) := linked (places.headD 0) split
      write number (Node.build (← get) number kind cells (some last))
      return []
    else return split

/-- Put a cell into a page without children. It goes into the gap before the other cells if that
is large enough. A row behind all others of a table gets a page of its own if it is not. -/
def putCell (isRoot atEnd : Bool) (node : Node) (index : Nat) (cell : List UInt8) :
    Paging Split := do
  let pages ← get
  let room ← node.room? pages.usable
  let top := node.contentStart
  let first := node.start + node.headLength
  if cell.length + 2 ≤ room ∧ first + 2 * (node.cells + 1) + cell.length ≤ top then
    let after := Page.slice node.page (first + 2 * index) (2 * (node.cells - index))
    let place := top - cell.length
    let page := Page.put node.page place cell
    let page := Page.put page (first + 2 * index) (FixedWidth.encode 2 place ++ after)
    let page := Page.putNumber page (node.start + 3) 2 (node.cells + 1)
    write node.number (Page.putNumber page (node.start + 5) 2 place)
    return []
  else if node.kind = .table ∧ atEnd ∧ index = node.cells ∧ room < cell.length + 2 then
    let between := lastNumber [← node.cellBytes? pages (node.cells - 1)]
    let place ← allocate 0
    write place (Node.build (← get) place .table [cell] none)
    return [(between, place)]
  else
    let cells ← node.allCells? pages isRoot
    writeCells isRoot node.number node.kind (cells.take index ++ cell :: cells.drop index) none

/-- Put a cell into the tree below a page, which may be the last one below another. The search
tells where in a page it belongs. -/
def insertBelow (kind : RowKind) (search : Pages → Node → Except DatabaseFault (Nat × Bool))
    (cell : List UInt8) : Nat → Bool → Bool → Nat → Paging Split
  | 0, _, _, _ => throw .broken
  | fuel + 1, isRoot, atEnd, number => do
    let node ← (← get).node? kind isRoot number
    let (index, _) ← search (← get) node
    if node.isLeaf then putCell isRoot atEnd node index cell
    else
      let atEnd := number ≠ 1 && index = node.cells
      let split ← insertBelow kind search cell fuel false atEnd (node.child? index)
      if split.isEmpty then return []
      else
        let cells ← node.allCells? (← get) isRoot
        let (added, behind) := linked (node.child? index) split
        if index < node.cells then
          let moved := bytesOf behind ++ (cells.getD index []).drop 4
          writeCells isRoot number kind (cells.take index ++ added ++ moved :: cells.drop (index + 1))
            (some node.last)
        else writeCells isRoot number kind (cells ++ added) (some behind)

/-- Add a row to a table. There is none with its number yet. -/
def insertRow (root : Nat) (row : Row) : Paging Unit := do
  let cell ← makeCell .table row.key row.payload
  let search (pages : Pages) (node : Node) :=
    Pages.seek? (pages.sideOfKey node row.key) (node.cells + 1) 0 node.cells
  let _ ← insertBelow .table search cell Pages.levelLimit true false root

/-- Add a record to an index. -/
def insertRecord (encoding : TextEncoding) (order : KeyOrder) (root : Nat) (record : List Datum) :
    Paging Unit := do
  let cell ← makeCell .index 0 (Record.encode encoding record)
  let search (pages : Pages) (node : Node) :=
    Pages.seek? (pages.sideOfRecord encoding order node record) (node.cells + 1) 0 node.cells
  let _ ← insertBelow .index search cell Pages.levelLimit true false root

/-- Make a page the root of an empty tree. -/
def clearRoot (kind : RowKind) (root : Nat) : Paging Unit := do
  write root (Node.build (← get) root kind [] none)

/-- Release all pages of a tree but its root, and the pages where its rows go on. -/
def releaseBelow (kind : RowKind) : Nat → Bool → Nat → Paging Unit
  | 0, _, _ => throw .broken
  | fuel + 1, isRoot, number => do
    let node ← (← get).node? kind isRoot number
    (List.range node.cells).forM fun index => do
      let cell ← node.cell? (← get) index
      releaseChain (cell.length + 1) cell.next
      if !node.isLeaf then releaseBelow kind fuel false cell.child
    if !node.isLeaf then releaseBelow kind fuel false node.last
    if !isRoot then release number

/-- Take a cell out of a page without children, unless the page would be left without any. -/
def removeCell (isRoot : Bool) (node : Node) (index : Nat) : Paging Bool := do
  let pages ← get
  let _ ← node.room? pages.usable
  if node.cells ≤ 1 ∧ ¬isRoot then return false
  else
    let cell ← node.cell? pages index
    let cells ← node.allCells? pages isRoot
    write node.number
      (Node.build pages node.number node.kind (cells.take index ++ cells.drop (index + 1)) none)
    releaseChain (cell.length + 1) cell.next
    return true

/-- Take a cell out of the tree below a page, if its page keeps others and has no children. -/
def removeBelow (kind : RowKind) (search : Pages → Node → Except DatabaseFault (Nat × Bool)) :
    Nat → Bool → Nat → Paging (Option Bool)
  | 0, _, _ => throw .broken
  | fuel + 1, isRoot, number => do
    let node ← (← get).node? kind isRoot number
    let (index, found) ← search (← get) node
    if node.isLeaf then
      if found then return some (← removeCell isRoot node index) else return none
    else if found ∧ kind = .index then return some false
    else removeBelow kind search fuel false (node.child? index)

/-- Take a row out of a table. -/
def deleteRow (root : Nat) (key : Int) : Paging Unit := do
  let search (pages : Pages) (node : Node) :=
    Pages.seek? (pages.sideOfKey node key) (node.cells + 1) 0 node.cells
  match ← removeBelow .table search Pages.levelLimit true root with
  | some false =>
    let rows ← (← get).rows? .table root
    releaseBelow .table Pages.levelLimit true root
    clearRoot .table root
    (rows.filter fun row => row.key ≠ key).forM (insertRow root)
  | _ => return

/-- Take a record out of an index, and tell whether it was there. -/
def deleteRecord (encoding : TextEncoding) (order : KeyOrder) (root : Nat)
    (record : List Datum) : Paging Bool := do
  let search (pages : Pages) (node : Node) :=
    Pages.seek? (pages.sideOfRecord encoding order node record) (node.cells + 1) 0 node.cells
  match ← removeBelow .index search Pages.levelLimit true root with
  | some false =>
    let records ← (← get).records? encoding root
    releaseBelow .index Pages.levelLimit true root
    clearRoot .index root
    (records.filter fun other => order.compare other record ≠ .eq).forM
      (insertRecord encoding order root)
    return true
  | some true => return true
  | none => return false

/-- A page that is the root of a new empty tree. -/
def createTree (kind : RowKind) : Paging Nat := do
  (← get).checkRootPlace
  modify fun pages => (pages.setHeadNumber 52 4 0).setHeadNumber 64 4 0
  let root ← allocate 1
  clearRoot kind root
  return root

end Paging

end SignalGraph.Database
