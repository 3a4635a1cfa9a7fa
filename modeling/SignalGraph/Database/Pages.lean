import SignalGraph.Database.Fault
import SignalGraph.Database.Number

/-! The pages of a database: all of one length, counted from one.

The first page begins with a head about all of them. Pages that are not used stand in a list: a
trunk page names others that are free, and the next trunk.
-/

set_option autoImplicit false

namespace SignalGraph.Database

namespace Page

/-- The number in so many bytes of a page; zeros stand for what it lacks. -/
def number (page : ByteArray) (start width : Nat) : Nat :=
  (List.range width).foldl (fun n place => n * 256 + ((page[start + place]?).getD 0).toNat) 0

def slice (page : ByteArray) (start length : Nat) : List UInt8 :=
  (page.extract start (start + length)).data.toList

/-- Write bytes over those from a place on. -/
def put (page : ByteArray) (start : Nat) (bytes : List UInt8) : ByteArray :=
  page.extract 0 start ++ ⟨bytes.toArray⟩ ++ page.extract (start + bytes.length) page.size

def putNumber (page : ByteArray) (start width n : Nat) : ByteArray :=
  put page start (FixedWidth.encode width n)

def empty (length : Nat) : ByteArray := ⟨(List.replicate length (0 : UInt8)).toArray⟩

end Page

structure Pages where
  length : Nat
  /-- The bytes of a page that are in use; others may be reserved at its end. -/
  usable : Nat
  content : Array ByteArray

/-- Work on pages that may find them broken. -/
abbrev Paging := StateT Pages (Except DatabaseFault)

namespace Pages

def count (pages : Pages) : Nat := pages.content.size

def page? (pages : Pages) (number : Nat) : Except DatabaseFault ByteArray :=
  if number = 0 then .error .broken
  else
    match pages.content[number - 1]? with
    | some page => .ok page
    | none => .error .broken

/-- A number in the head. -/
def headNumber (pages : Pages) (start width : Nat) : Nat :=
  match pages.content[0]? with
  | some page => Page.number page start width
  | none => 0

def setPage (pages : Pages) (number : Nat) (page : ByteArray) : Pages :=
  { pages with content := pages.content.setIfInBounds (number - 1) page }

def setHeadNumber (pages : Pages) (start width n : Nat) : Pages :=
  match pages.content[0]? with
  | some page => pages.setPage 1 (Page.putNumber page start width n)
  | none => pages

/-- Add an empty page at the end. -/
def extend (pages : Pages) : Nat × Pages :=
  let content := pages.content.push (Page.empty pages.length)
  (content.size, { pages with content }.setHeadNumber 28 4 content.size)

/-- The first page of the list of free pages, and how many there are. -/
def firstFree (pages : Pages) : Nat := pages.headNumber 32 4

def freeCount (pages : Pages) : Nat := pages.headNumber 36 4

/-- A page that tells where others belong, one for so many of them. A file that can shrink by
itself has such pages. -/
def isMapPage (pages : Pages) (number : Nat) : Bool :=
  pages.headNumber 52 4 ≠ 0 && 2 ≤ number && (number - 2) % (pages.usable / 5 + 1) = 0

/-- The page of the map that tells about a page. -/
def mapPage (pages : Pages) (number : Nat) : Nat :=
  if number < 2 then 0 else (number - 2) / (pages.usable / 5 + 1) * (pages.usable / 5 + 1) + 2

/-- The entry of a page in the map. -/
def mapEntry (pages : Pages) (number : Nat) : Except DatabaseFault Nat := do
  let group := pages.mapPage number
  if number ≤ group then .error .broken
  else
    let entry := Page.number (← pages.page? group) (5 * (number - group - 1)) 1
    if entry = 0 ∨ 5 < entry then .error .broken else return entry

/-- The pages on the list of free ones, from a trunk page on. -/
def freeFrom (pages : Pages) : Nat → Nat → List Nat
  | 0, _ => []
  | fuel + 1, number =>
    match pages.content[number - 1]? with
    | none => []
    | some trunk =>
      if number = 0 then []
      else
        let named := min (Page.number trunk 4 4) (pages.usable / 4)
        number :: (List.range named).map (fun index => Page.number trunk (8 + 4 * index) 4) ++
          freeFrom pages fuel (Page.number trunk 0 4)

/-- In a file that can shrink by itself a root goes to the place behind the last root. The page
that is there has to be a free one, or one that can move. -/
def checkRootPlace (pages : Pages) : Except DatabaseFault Unit := do
  let last := pages.headNumber 52 4
  if last ≠ 0 then
    if pages.count < last then throw .broken
    let place := if pages.isMapPage (last + 1) then last + 2 else last + 1
    if place ≤ pages.count then
      let sort ← pages.mapEntry place
      if sort = 1 ∨ (sort = 2 ∧ place ∉ pages.freeFrom pages.freeCount pages.firstFree) then
        throw .broken

/-- A file that shrinks by itself does so at the end of each change, unless it waits to be told.
The free pages go, and those at the end move, which the map has to allow. -/
def checkShrinking (pages : Pages) : Except DatabaseFault Unit := do
  if pages.headNumber 52 4 ≠ 0 ∧ pages.headNumber 64 4 = 0 then
    let count := pages.count
    let free := pages.freeCount
    let each := pages.usable / 5
    let gone := free + (free + each - (count - pages.mapPage count)) / each
    if pages.isMapPage count ∨ count ≤ gone then throw .broken
    if free ≠ 0 then
      (List.range gone).forM fun index => do
        let number := count - index
        if !pages.isMapPage number then
          if (← pages.mapEntry number) = 1 then throw .broken

end Pages

namespace Paging

/-- The free page nearest to a place among those that a trunk page names. -/
def nearest (trunk : ByteArray) (near named : Nat) : Nat :=
  let distance (index : Nat) : Nat :=
    let number := Page.number trunk (8 + 4 * index) 4
    if near ≤ number then number - near else near - number
  (List.range named).foldl (fun best index => if distance index < distance best then index else best)
    0

/-- Take a page from the list of free pages. -/
def takeFree (near : Nat) : Paging Nat := do
  let pages ← get
  let number := pages.firstFree
  if number < 2 then throw .broken
  let trunk ← pages.page? number
  let named := Page.number trunk 4 4
  let pages := pages.setHeadNumber 36 4 (pages.freeCount - 1)
  if named = 0 then
    set ((pages.setHeadNumber 32 4 (Page.number trunk 0 4)).setPage number (Page.empty pages.length))
    return number
  else if pages.usable / 4 - 2 < named then throw .broken
  else
    let index := nearest trunk near named
    let chosen := Page.number trunk (8 + 4 * index) 4
    if pages.count < chosen ∨ chosen < 2 ∨ chosen = number then throw .broken
    let last := Page.number trunk (4 + 4 * named) 4
    let trunk := Page.putNumber (Page.putNumber trunk (8 + 4 * index) 4 last) 4 4 (named - 1)
    set ((pages.setPage number trunk).setPage chosen (Page.empty pages.length))
    return chosen

/-- A page for new content: a free one if there is any, or one more at the end. -/
def allocate (near : Nat) : Paging Nat := do
  let pages ← get
  if pages.count ≤ pages.freeCount then throw .broken
  else if pages.freeCount ≠ 0 then takeFree near
  else
    let (number, pages) := pages.extend
    if pages.isMapPage number then
      let (number, pages) := pages.extend
      set pages
      return number
    else
      set pages
      return number

/-- Put a page on the list of free pages. -/
def release (number : Nat) : Paging Unit := do
  let pages ← get
  if number < 2 ∨ pages.count < number then throw .broken
  let first := pages.firstFree
  let free := pages.freeCount
  let counted := pages.setHeadNumber 36 4 (free + 1)
  let asTrunk := (counted.setHeadNumber 32 4 number).setPage number
    (Page.putNumber (Page.empty pages.length) 0 4 (if free = 0 then 0 else first))
  if free = 0 then set asTrunk
  else
    let trunk ← pages.page? first
    let named := Page.number trunk 4 4
    if pages.usable / 4 - 2 < named then throw .broken
    else if named < pages.usable / 4 - 8 then
      set (counted.setPage first
        (Page.putNumber (Page.putNumber trunk 4 4 (named + 1)) (8 + 4 * named) 4 number))
    else set asTrunk

def write (number : Nat) (page : ByteArray) : Paging Unit :=
  modify fun pages => pages.setPage number page

end Paging

end SignalGraph.Database
