import SignalGraph.Number.Power

/-! Ids for nodes that a user adds: a word and a random UUID of version 4, in lower case. -/

set_option autoImplicit false

namespace SignalGraph.NodeId

/-- The digit at a place of the UUID made from 128 random bits. The version is fixed, and two
bits of the variant are. -/
def digit (random place : Nat) : Char :=
  let random := random / power 16 (31 - place) % 16
  Nat.digitChar (if place = 12 then 4 else if place = 16 then 8 + random % 4 else random)

/-- So many digits, from a place on. -/
def digits (random place length : Nat) : List Char :=
  (List.range length).map fun offset => digit random (place + offset)

def uuid (random : Nat) : List Char :=
  digits random 0 8 ++ '-' :: (digits random 8 4 ++ '-' :: (digits random 12 4 ++ '-' ::
    (digits random 16 4 ++ '-' :: digits random 20 12)))

def ofRandom (random : Nat) : String := "node-" ++ String.ofList (uuid random)

/-- A character that may stand at a place of a UUID of this sort. -/
def allowedAt (place : Nat) (c : Char) : Bool :=
  if place = 8 ∨ place = 13 ∨ place = 18 ∨ place = 23 then c == '-'
  else if place = 14 then c == '4'
  else if place = 19 then c ∈ ['8', '9', 'a', 'b']
  else c.isDigit || ('a' ≤ c && c ≤ 'f')

def isUuid (text : List Char) : Bool :=
  text.length == 36 && text.zipIdx.all fun entry => allowedAt entry.2 entry.1

/-- The id has the form of ids that are made here. -/
def isMade (id : String) : Bool :=
  "node-".toList.isPrefixOf id.toList && isUuid (id.toList.drop 5)

end SignalGraph.NodeId
