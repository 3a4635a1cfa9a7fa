import SignalGraph.Json.Reader
import SignalGraph.KeyMap

/-! JSON values, as opposed to JSON as written.

A value has one tree: keys ascend, integers fit in 64 bits with or without a sign, and floats
are finite. Reading a tree as a value keeps the last of several members with one key.

A value may also be embedded as a text: an object whose first member has the key reserved for
this is not an object but what the JSON text in that member denotes.
-/

set_option autoImplicit false

namespace SignalGraph

namespace Tree

mutual

/-- The tree is the one tree of a value. -/
def Canonical : Tree → Prop
  | integer n => InIntegerRange n
  | float x => x.IsFinite
  | array items => CanonicalItems items
  | object members => Ascending members ∧ CanonicalMembers members
  | unreadable => False
  | null | bool _ | string _ => True

def CanonicalItems : List Tree → Prop
  | [] => True
  | item :: rest => item.Canonical ∧ CanonicalItems rest

def CanonicalMembers : List (String × Tree) → Prop
  | [] => True
  | (_, value) :: rest => value.Canonical ∧ CanonicalMembers rest

end

theorem canonicalItems_iff (items : List Tree) :
    CanonicalItems items ↔ ∀ item ∈ items, item.Canonical := by
  induction items with
  | nil => simp [CanonicalItems]
  | cons item rest ih => simp [CanonicalItems, ih]

theorem canonicalMembers_iff (members : List (String × Tree)) :
    CanonicalMembers members ↔ ∀ entry ∈ members, entry.2.Canonical := by
  induction members with
  | nil => simp [CanonicalMembers]
  | cons entry rest ih => simp [CanonicalMembers, ih]

end Tree

@[ext]
structure Json where
  tree : Tree
  canonical : tree.Canonical

namespace Json

instance : BEq Json := ⟨fun first second => first.tree == second.tree⟩

def null : Json := ⟨.null, trivial⟩

instance : Inhabited Json := ⟨null⟩

def bool (value : Bool) : Json := ⟨.bool value, trivial⟩

def string (value : String) : Json := ⟨.string value, trivial⟩

/-- A float; a double that is not finite has no number in JSON and becomes `null`. -/
def float (value : Binary64) : Json :=
  if finite : value.IsFinite then ⟨.float value, finite⟩ else null

/-- An integer; out of range it is held as a float. -/
def integer (value : Int) : Json :=
  if inRange : InIntegerRange value then ⟨.integer value, inRange⟩ else float (.ofInt value)

def array (items : List Json) : Json :=
  ⟨.array (items.map tree), (Tree.canonicalItems_iff _).mpr fun _ member => by
    obtain ⟨item, _, rfl⟩ := List.mem_map.mp member
    exact item.canonical⟩

theorem ascending_map_value {α β : Type} (f : α → β) {entries : List (String × α)}
    (ordered : Ascending entries) : Ascending (entries.map fun entry => (entry.1, f entry.2)) :=
  List.pairwise_map.mpr ordered

def object (members : KeyMap Json) : Json :=
  ⟨.object (members.entries.map fun entry => (entry.1, entry.2.tree)),
    ascending_map_value tree members.ascending,
    (Tree.canonicalMembers_iff _).mpr fun _ member => by
      obtain ⟨entry, _, rfl⟩ := List.mem_map.mp member
      exact entry.2.canonical⟩

/-- The key reserved for embedded texts. -/
def embeddingKey : String := "$serde_json::private::RawValue"

/-- The members are those of an embedding. A reserved key further back is a key like others. -/
def isEmbedding (members : List (String × Tree)) : Bool :=
  (members.head?.map fun entry => entry.1) = some embeddingKey

/-- The embedded text. It has to be a text, and nothing may come after it. -/
def embeddedText? : List (String × Tree) → Option String
  | [(_, .string text)] => some text
  | _ => none

mutual

/-- The value a tree denotes, with a reader for embedded texts; none if some part of the tree
is unreadable or out of range. -/
def denoted? (embedded? : String → Option Json) : Tree → Option Json
  | .null => some null
  | .bool value => some (bool value)
  | .string value => some (string value)
  | .integer value =>
    if inRange : InIntegerRange value then some ⟨.integer value, inRange⟩ else none
  | .float value => if finite : value.IsFinite then some ⟨.float value, finite⟩ else none
  | .array items => (denotedItems? embedded? items).map array
  | .object members =>
    if isEmbedding members then (embeddedText? members).bind embedded?
    else (denotedMembers? embedded? members).map fun entries => object (.ofList entries)
  | .unreadable => none

def denotedItems? (embedded? : String → Option Json) : List Tree → Option (List Json)
  | [] => some []
  | item :: rest => do
    return (← denoted? embedded? item) :: (← denotedItems? embedded? rest)

def denotedMembers? (embedded? : String → Option Json) :
    List (String × Tree) → Option (List (String × Json))
  | [] => some []
  | (key, value) :: rest => do
    return (key, ← denoted? embedded? value) :: (← denotedMembers? embedded? rest)

end

/-- The value of a text in which embeddings are nested less deep than the fuel. -/
def ofNestedText? (fuel : Nat) (text : String) : Option Json :=
  match fuel with
  | 0 => none
  | fuel + 1 => (Tree.read? text).bind (denoted? (ofNestedText? fuel))

/-- The value of a text. An embedded text is shorter than the text around it by its quotes at
least, so the length bounds the nesting. -/
def ofText? (text : String) : Option Json := ofNestedText? (text.length + 1) text

/-- The value a tree denotes. -/
def ofTree? : Tree → Option Json := denoted? ofText?

end Json

end SignalGraph
