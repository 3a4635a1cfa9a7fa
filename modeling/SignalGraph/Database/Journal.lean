import SignalGraph.Database.Pages

/-! A journal beside the file of a database: the pages as they were before a change that was not
finished. They are put back before anything is read.

The journal is parts, each with a head and the records that the head counts. A record is the
number of a page, the page and a sum. What does not fit ends the journal.
-/

set_option autoImplicit false

namespace SignalGraph.Database

/-- What the file of a database holds, before it is known to be one. Behind the bytes there are
zeros up to its size. -/
structure RawFile where
  bytes : ByteArray
  size : Nat
  pageLength : Nat

namespace RawFile

def pages (file : RawFile) : Nat := (file.size + file.pageLength - 1) / file.pageLength

/-- Cut a file off behind so many pages, or let zeros follow it. -/
def resize (file : RawFile) (pages : Nat) : RawFile :=
  let size := pages * file.pageLength
  if size ≤ file.size then { file with bytes := file.bytes.extract 0 size, size }
  else if file.size + file.pageLength ≤ size then { file with size }
  else file

def putPage (file : RawFile) (number : Nat) (page : ByteArray) : RawFile :=
  let place := (number - 1) * file.pageLength
  let bytes := if file.bytes.size < place then file.bytes ++ Page.empty (place - file.bytes.size)
    else file.bytes
  { file with bytes := bytes.extract 0 place ++ page ++ bytes.extract (place + page.size) bytes.size
              size := max file.size (place + page.size) }

end RawFile

namespace Journal

def signature : List UInt8 := [0xd9, 0xd5, 0x05, 0xf9, 0x20, 0xa1, 0x63, 0xd7]

/-- What the heads of a journal say, and what was put back so far. -/
structure Playback where
  file : RawFile
  sector : Nat
  /-- The pages that the file had. -/
  pages : Nat
  restored : List Nat

/-- The sum over every two hundredth byte of a page. -/
def sum (start : Nat) (page : ByteArray) : Nat :=
  let places := (List.range (page.size / 200 + 1)).filterMap fun step =>
    if step * 200 + 200 < page.size then some (page.size - 200 - step * 200) else none
  places.foldl (fun total place => (total + Page.number page place 1) % power 2 32) start

def isPowerOfTwo (n : Nat) : Bool := n ≠ 0 && power 2 n.log2 = n

/-- Put back so many records. The answer tells whether all of them were good. -/
def records (journal : ByteArray) (start : Nat) : Nat → Nat → Playback → Bool × Nat × Playback
  | 0, place, playback => (true, place, playback)
  | left + 1, place, playback =>
    let length := playback.file.pageLength
    let next := place + length + 8
    let number := Page.number journal place 4
    if journal.size < next then (false, next, playback)
    else if number = 0 then (false, next, playback)
    else if playback.pages < number ∨ number ∈ playback.restored then
      records journal start left next playback
    else
      let page := journal.extract (place + 4) (place + 4 + length)
      if sum start page ≠ Page.number journal (place + 4 + length) 4 then (false, next, playback)
      else
        records journal start left next
          { playback with file := playback.file.putPage number page,
                          restored := number :: playback.restored }

/-- Put back what the parts of a journal hold, from a place on. -/
def parts (journal : ByteArray) : Nat → Nat → Playback → Playback
  | 0, _, playback => playback
  | fuel + 1, place, playback =>
    let place := (place + playback.sector - 1) / playback.sector * playback.sector
    if journal.size < place + playback.sector then playback
    else if Page.slice journal place 8 ≠ signature then playback
    else
      let number (offset : Nat) : Nat := Page.number journal (place + offset) 4
      let isFirst := place = 0
      let sector := if isFirst then number 20 else playback.sector
      let length :=
        if isFirst ∧ number 24 ≠ 0 then number 24 else playback.file.pageLength
      if isFirst ∧ (length < 512 ∨ 65536 < length ∨ sector < 32 ∨ 65536 < sector ∨
          ¬isPowerOfTwo length ∨ ¬isPowerOfTwo sector) then playback
      else
        let file := { playback.file with pageLength := length }
        let playback :=
          if isFirst then { file := file.resize (number 16), sector, pages := number 16,
                            restored := [] }
          else playback
        let count := if number 8 = power 2 32 - 1 then (journal.size - sector) / (length + 8)
          else number 8
        let count := min count (journal.size / (length + 8) + 1)
        let (good, next, playback) := records journal (number 12) count (place + sector) playback
        if good then parts journal fuel next playback else playback

/-- The journal names another file that it depends on. -/
def hasLeader (journal : ByteArray) : Bool :=
  16 ≤ journal.size && Page.slice journal (journal.size - 8) 8 = signature &&
    Page.number journal (journal.size - 16) 4 ≠ 0

/-- The file with the pages of a journal put back. A journal that begins with a zero is done
with, and an empty file has none. -/
def restore (journal : ByteArray) (file : RawFile) : RawFile :=
  if Page.number journal 0 1 = 0 ∨ file.size ≤ 1 ∨ hasLeader journal then file
  else (parts journal (journal.size + 1) 0 ⟨file, 512, file.pages, []⟩).file

end Journal

end SignalGraph.Database
