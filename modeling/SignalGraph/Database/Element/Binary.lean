import SignalGraph.Database.Element.Path
import SignalGraph.Database.Number

/-! Elements as bytes: a kind and a size, and behind them what the element is made of.

The size stands in the first byte if it is small, and else in one, two or four bytes after it.
-/

set_option autoImplicit false

namespace SignalGraph.Database

namespace Spelled

def kind (text : Spelled) : Nat :=
  match text.spelling with
  | .plain => 7
  | .escaped => 8
  | .loose => 9
  | .raw => 10

end Spelled

namespace Element

/-- The bytes in front of a body of some kind and size. -/
def head (kind size : Nat) : List UInt8 :=
  let first (n : Nat) : UInt8 := UInt8.ofNat (kind + 16 * n)
  if size ≤ 11 then [first size]
  else if size ≤ 0xFF then first 12 :: FixedWidth.encode 1 size
  else if size ≤ 0xFFFF then first 13 :: FixedWidth.encode 2 size
  else first 14 :: FixedWidth.encode 4 size

def withHead (kind : Nat) (body : List UInt8) : List UInt8 := head kind body.length ++ body

def encodeSpelled (text : Spelled) : List UInt8 := withHead text.kind (Bytes.ofText text.body)

mutual

def encode : Element → List UInt8
  | null => [0]
  | bool true => [1]
  | bool false => [2]
  | integer loose digits => withHead (if loose then 4 else 3) (Bytes.ofText digits)
  | real loose digits => withHead (if loose then 6 else 5) (Bytes.ofText digits)
  | text value => encodeSpelled value
  | array items => withHead 11 (encodeItems items)
  | object members => withHead 12 (encodeMembers members)

def encodeItems : List Element → List UInt8
  | [] => []
  | item :: rest => item.encode ++ encodeItems rest

def encodeMembers : List (Spelled × Element) → List UInt8
  | [] => []
  | (label, value) :: rest => encodeSpelled label ++ (value.encode ++ encodeMembers rest)

end

/-- The kind of an element, its body and what follows it. -/
def split? (bytes : List UInt8) : Option (Nat × List UInt8 × List UInt8) :=
  match bytes with
  | [] => none
  | first :: rest =>
    let short := first.toNat / 16
    let width := if short ≤ 11 then 0 else power 2 (short - 12)
    let size := if width = 0 then short else FixedWidth.decode (rest.take width)
    let rest := rest.drop width
    if size ≤ rest.length then some (first.toNat % 16, rest.take size, rest.drop size) else none

/-- Labels and values in turn. -/
def pairUp? : List Element → Option (List (Spelled × Element))
  | [] => some []
  | .text label :: value :: rest => do return (label, value) :: (← pairUp? rest)
  | _ => none

mutual

/-- The element at the front of some bytes, and what follows it. -/
def decode? (fuel : Nat) (bytes : List UInt8) : Option (Element × List UInt8) :=
  match fuel with
  | 0 => none
  | fuel + 1 => do
    let (kind, body, rest) ← split? bytes
    let found := Bytes.toText body
    let element ← match kind with
      | 0 => some null
      | 1 => some (bool true)
      | 2 => some (bool false)
      | 3 => if body = [] then none else some (integer false found)
      | 4 => if body = [] then none else some (integer true found)
      | 5 => if body = [] then none else some (real false found)
      | 6 => if body = [] then none else some (real true found)
      | 7 => some (.text ⟨.plain, found⟩)
      | 8 => some (.text ⟨.escaped, found⟩)
      | 9 => some (.text ⟨.loose, found⟩)
      | 10 => some (.text ⟨.raw, found⟩)
      | 11 => (decodeItems? fuel body).map array
      | 12 => (decodeItems? fuel body).bind fun parts => (pairUp? parts).map object
      | _ => none
    return (element, rest)
termination_by structural fuel

def decodeItems? (fuel : Nat) (bytes : List UInt8) : Option (List Element) :=
  match fuel with
  | 0 => none
  | fuel + 1 =>
    if bytes = [] then some []
    else do
      let (element, rest) ← decode? fuel bytes
      return element :: (← decodeItems? fuel rest)
termination_by structural fuel

end

/-- Whether bytes look like an element from outside. -/
def looksBinary (bytes : List UInt8) : Bool :=
  match bytes, split? bytes with
  | first :: _, some (kind, body, []) =>
    kind ≤ 12 && (2 < kind || body = []) &&
      (7 < body.length || (first ≠ 0x7B && first ≠ 0x5B && !(0x30 ≤ first && first ≤ 0x39)) ||
        (decode? (bytes.length + 1) bytes).isSome)
  | _, _ => false

/-- The element that bytes are; nothing if they are broken inside. -/
def ofBytes? (bytes : List UInt8) : Option Element :=
  (decode? (bytes.length + 1) bytes).map fun found => found.1

/-- Whether an element reads back from its text. -/
def isSound (element : Element) : Bool :=
  match (ofText element.render).1 with
  | .ok _ => true
  | .error _ => false

end Element

end SignalGraph.Database
