import SignalGraph.Database.Fault
import SignalGraph.Database.Record
import SignalGraph.Database.Number

/-! Functions on the nodes of a tree of boxes. A node holds numbered boxes, each with its least and
its greatest value in every direction, as numbers of four bytes.
-/

set_option autoImplicit false

namespace SignalGraph.Database

/-- The number that four bytes stand for: a sign, eight bits for the size and 23 for the
significand. -/
def Binary64.ofSingle (word : Nat) : Binary64 :=
  let negative := power 2 31 ≤ word
  let size := word / power 2 23 % 256
  let fraction := word % power 2 23
  if size = 255 then if fraction = 0 then .infinite negative else .nan
  else if size = 0 then .round negative (fraction * power 2 925) 1
  else .round negative ((power 2 23 + fraction) * power 2 (924 + size)) 1

namespace BoxFunction

/-- A box with its number: the least and the greatest value of each direction. -/
structure Box where
  number : Int
  values : List Binary64

/-- Bytes in pieces of a length. -/
def pieces (length : Nat) : Nat → List UInt8 → List (List UInt8)
  | 0, _ => []
  | count + 1, bytes => bytes.take length :: pieces length count (bytes.drop length)

def boxOf (directions : Nat) (bytes : List UInt8) : Box :=
  { number := FixedWidth.signed 64 (FixedWidth.decode (bytes.take 8))
    values := (pieces 4 (2 * directions) (bytes.drop 8)).map fun word =>
      Binary64.ofSingle (FixedWidth.decode word) }

/-- The boxes of a node, if all are there. -/
def boxes? (directions : Nat) (bytes : List UInt8) : Option (List Box) :=
  let count := FixedWidth.decode ((bytes.drop 2).take 2)
  let length := 8 + 8 * directions
  if bytes.length < 4 ∨ bytes.length < count * length then none
  else some ((pieces length count (bytes.drop 4)).map (boxOf directions))

def boxText (box : Box) : String :=
  let style : RealStyle := { form := .general, places := 6 }
  "\x7b" ++ String.intercalate " " (toString box.number :: box.values.map style.text) ++ "\x7d"

/-- The boxes of a node as text. -/
def nodeText (directions node : Datum) : Datum :=
  let count := directions.toInt.bmod (power 2 32) % 256
  if count < 1 ∨ 5 < count then .null
  else
    match boxes? count.toNat node.bytes with
    | none | some [] => .null
    | some boxes => .text (String.intercalate " " (boxes.map boxText))

/-- How many levels of nodes are below the first one, as it says itself. -/
def depth (node : Datum) : Except StatementFault Datum :=
  match node with
  | .blob (first :: second :: _) => .ok (.integer (FixedWidth.decode [first, second]))
  | _ => .error (.domain "Invalid argument to rtreedepth()")

end BoxFunction

end SignalGraph.Database
