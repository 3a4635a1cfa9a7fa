import SignalGraph.Number.Binary64

/-! JSON as it stands in a text: members in the order written, repeated keys included.

A part of a text may follow the grammar and still denote nothing: a number beyond every
double, a text with half of a surrogate pair, a container nested too deep. Such a part is
`unreadable`; it does no harm where nobody asks for it.
-/

set_option autoImplicit false

namespace SignalGraph

/-- Integers of a JSON value: signed or unsigned 64-bit. -/
def InIntegerRange (n : Int) : Prop := -(power 2 63 : Int) ≤ n ∧ n < power 2 64

instance (n : Int) : Decidable (InIntegerRange n) := inferInstanceAs (Decidable (_ ∧ _))

inductive Tree where
  | null
  | bool (value : Bool)
  | integer (value : Int)
  | float (value : Binary64)
  | string (value : String)
  | array (items : List Tree)
  | object (members : List (String × Tree))
  | unreadable

namespace Tree

mutual

/-- Equality of values: an integer never equals a float, and floats compare as numbers. -/
def same : Tree → Tree → Bool
  | null, null => true
  | bool a, bool b => a == b
  | integer a, integer b => a == b
  | float a, float b => a == b
  | string a, string b => a == b
  | array a, array b => sameItems a b
  | object a, object b => sameMembers a b
  | _, _ => false

def sameItems : List Tree → List Tree → Bool
  | [], [] => true
  | a :: as, b :: bs => same a b && sameItems as bs
  | _, _ => false

def sameMembers : List (String × Tree) → List (String × Tree) → Bool
  | [], [] => true
  | (key, a) :: as, (other, b) :: bs => key == other && same a b && sameMembers as bs
  | _, _ => false

end

instance : BEq Tree := ⟨same⟩

mutual

/-- How many containers are open at the deepest place. -/
def depth : Tree → Nat
  | array items => itemsDepth items + 1
  | object members => membersDepth members + 1
  | _ => 0

def itemsDepth : List Tree → Nat
  | [] => 0
  | item :: rest => max (depth item) (itemsDepth rest)

def membersDepth : List (String × Tree) → Nat
  | [] => 0
  | (_, value) :: rest => max (depth value) (membersDepth rest)

end

/-- The member of that key, if the tree is an object that has one. -/
def member? (key : String) : Tree → Option Tree
  | object members => members.lookup key
  | _ => none

def isArray : Tree → Bool
  | array _ => true
  | _ => false

/-- A member that is left out when there is nothing to write. -/
def optionalMember {α : Type} (key : String) (write : α → Tree) : Option α → List (String × Tree)
  | none => []
  | some value => [(key, write value)]

/-- A value, or `null` when there is none. -/
def nullable {α : Type} (write : α → Tree) : Option α → Tree
  | none => null
  | some value => write value

end Tree

end SignalGraph
