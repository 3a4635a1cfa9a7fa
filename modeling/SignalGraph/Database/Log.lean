import SignalGraph.Database.Pages

/-! A log beside the file of a database: pages that were written, and are not in the file yet.

The log is frames behind a head. Each frame is a page with its number; one that ends a change
tells how many pages there are after it. Sums run on from frame to frame, and what follows a
wrong one does not count.
-/

set_option autoImplicit false

namespace SignalGraph.Database

namespace Log

/-- The two running sums, over words of four bytes taken in pairs. -/
abbrev Sums := Nat × Nat

def word (highFirst : Bool) (bytes : List UInt8) : Nat :=
  FixedWidth.decode (if highFirst then bytes else bytes.reverse)

def addSums (highFirst : Bool) : Sums → List UInt8 → Sums
  | (s, t), a :: b :: c :: d :: e :: f :: g :: h :: rest =>
    let s := (s + word highFirst [a, b, c, d] + t) % power 2 32
    let t := (t + word highFirst [e, f, g, h] + s) % power 2 32
    addSums highFirst (s, t) rest
  | sums, _ => sums

/-- What the log says: its pages with their numbers, the latest first, and how many pages the
database has. -/
structure Contents where
  pages : List (Nat × ByteArray)
  count : Nat

/-- Collect frames. Those after the last that ends a change do not count. -/
def frames (log : ByteArray) (highFirst : Bool) (length : Nat) (salt : List UInt8) :
    Nat → Nat → Sums → List (Nat × ByteArray) → Option Contents → Option Contents
  | 0, _, _, _, found => found
  | fuel + 1, place, sums, read, found =>
    if log.size < place + 24 + length then found
    else
      let number := Page.number log place 4
      let count := Page.number log (place + 4) 4
      let page := log.extract (place + 24) (place + 24 + length)
      let sums := addSums highFirst (addSums highFirst sums (Page.slice log place 8))
        page.data.toList
      if Page.slice log (place + 8) 8 ≠ salt ∨ number = 0 ∨
          sums ≠ (Page.number log (place + 16) 4, Page.number log (place + 20) 4) then found
      else
        let read := (number, page) :: read
        frames log highFirst length salt fuel (place + 24 + length) sums read
          (if count = 0 then found else some ⟨read, count⟩)

/-- What a log holds. It may hold nothing that counts. -/
def contents? (log : ByteArray) : Except DatabaseFault (Option Contents) :=
  let number (place : Nat) : Nat := Page.number log place 4
  let length := number 8
  let highFirst := number 0 % 2 = 1
  let sums := addSums highFirst (0, 0) (Page.slice log 0 24)
  if log.size ≤ 32 ∨ number 0 / 2 ≠ 0x377f0682 / 2 ∨ length < 512 ∨ 65536 < length ∨
      power 2 length.log2 ≠ length ∨ sums ≠ (number 24, number 28) then .ok none
  else if number 4 ≠ 3007000 then .error .cannotOpen
  else .ok (frames log highFirst length (Page.slice log 16 8) log.size 32 sums [] none)

end Log

end SignalGraph.Database
