import SignalGraph.Json.Value

/-! Records in JSON.

A record is an object whose members have the names of its fields, in any order and with other
members between them, or an array of the field values in the order of the fields, which may
stop early. A field may have several names; giving it twice, under one name or two, is refused.
What a field does when nothing is given for it is its own affair: see `Slot`.
-/

set_option autoImplicit false

namespace SignalGraph

/-- What a record gives for one field. -/
inductive Slot where
  | given (tree : Tree)
  /-- No member of the object has a name of the field. -/
  | absent
  /-- The array stops before the field. -/
  | cut

namespace Tree

/-- What the members of an object give for a field with these names. -/
def fieldSlot? (members : List (String × Tree)) (names : List String) : Option Slot :=
  match members.filter fun entry => names.contains entry.1 with
  | [] => some .absent
  | [(_, tree)] => some (.given tree)
  | _ => none

/-- What a tree gives for the fields of a record, each field a list of names. -/
def slots? (fields : List (List String)) : Tree → Option (List Slot)
  | object members => fields.mapM (fieldSlot? members)
  | array items =>
    if items.length ≤ fields.length then
      some (items.map .given ++ List.replicate (fields.length - items.length) .cut)
    else none
  | _ => none

def text? : Tree → Option String
  | string value => some value
  | _ => none

def bool? : Tree → Option Bool
  | bool value => some value
  | _ => none

/-- A number of either kind, as a double. -/
def number? : Tree → Option Binary64
  | integer value => some (.ofInt value)
  | float value => some value
  | _ => none

/-- A signed 64-bit integer. -/
def signed? : Tree → Option Int
  | integer value =>
    if -(power 2 63 : Int) ≤ value ∧ value < power 2 63 then some value else none
  | _ => none

/-- An unsigned 64-bit integer. -/
def count? : Tree → Option Nat
  | integer value => if 0 ≤ value ∧ value < power 2 64 then some value.toNat else none
  | _ => none

def list? {α : Type} (item? : Tree → Option α) : Tree → Option (List α)
  | array items => items.mapM item?
  | _ => none

/-- An object as a map; of several members with one key the last stays, but all are read. -/
def keyMap? {α : Type} (value? : Tree → Option α) : Tree → Option (KeyMap α)
  | object members =>
    (members.mapM fun entry => (value? entry.2).map (entry.1, ·)).map KeyMap.ofList
  | _ => none

mutual

/-- No part of the tree is unreadable. -/
def isReadable : Tree → Bool
  | unreadable => false
  | array items => itemsReadable items
  | object members => membersReadable members
  | _ => true

def itemsReadable : List Tree → Bool
  | [] => true
  | item :: rest => item.isReadable && itemsReadable rest

def membersReadable : List (String × Tree) → Bool
  | [] => true
  | (_, value) :: rest => value.isReadable && membersReadable rest

end

/-- The word of a tagged record, and the record without it: the member of an object under the
tag, or the first item of an array. In an object the word may come last, so that the rest has to be
readable before anyone knows what it is for. -/
def tagged? (tag : String) : Tree → Option (String × Tree)
  | object members => do
    guard (membersReadable members)
    let [(_, string word)] := members.filter (fun entry => entry.1 = tag) | none
    return (word, object (members.filter fun entry => entry.1 ≠ tag))
  | array (string word :: rest) => do
    guard (itemsReadable rest)
    return (word, array rest)
  | _ => none

/-- A record without fields: an object of any kind, or an empty array. -/
def isFieldless : Tree → Bool
  | object _ => true
  | array items => items.isEmpty
  | _ => false

/-- `null` for nothing, or a value. -/
def nullable? {α : Type} (value? : Tree → Option α) : Tree → Option (Option α)
  | null => some none
  | tree => (value? tree).map some

/-- One of a list of words, alone or as the only key of an object that holds `null`. -/
def word? {α : Type} (ofWord? : String → Option α) : Tree → Option α
  | string word => ofWord? word
  | object [(word, null)] => ofWord? word
  | _ => none

end Tree

namespace Slot

variable {α : Type}

/-- A field that must be given. -/
def required (value? : Tree → Option α) : Slot → Option α
  | given tree => value? tree
  | absent | cut => none

/-- A field that takes a default when it is not given. -/
def orDefault (value? : Tree → Option α) (default : α) : Slot → Option α
  | given tree => value? tree
  | absent | cut => some default

/-- A field that takes a default when it is not given or `null`. -/
def nullAsDefault (value? : Tree → Option α) (default : α) : Slot → Option α
  | given .null | absent | cut => some default
  | given tree => value? tree

/-- A field that may be left out or `null`. -/
def optional (value? : Tree → Option α) : Slot → Option (Option α)
  | given tree => tree.nullable? value?
  | absent | cut => some none

/-- A field that may be `null`, and may be left out of an object but not of an array. -/
def nullable (value? : Tree → Option α) : Slot → Option (Option α)
  | given tree => tree.nullable? value?
  | absent => some none
  | cut => none

end Slot

end SignalGraph
