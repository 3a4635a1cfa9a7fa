import SignalGraph.Proofs.Document.Export
import SignalGraph.Proofs.Json.Ordinary
import SignalGraph.Session.Command

/-! Edges and commands that were read, written, and read again.

A command is a tagged record. Of its arguments only the values of parameters and of the
configuration may fail to come back.
-/

set_option autoImplicit false

namespace SignalGraph

theorem Position.ofTree?_readBack {position : Position} (finite : position.IsFinite)
    (allowed : Nat) : ofTree? (position.toTree.readBack (allowed + 1)) = some position :=
  (read?_iff .straight position allowed).mpr ⟨finite, rfl⟩

/-- A coordinate that is no number is written as `null`, which is readable as well. -/
theorem Position.isReadable_readBack (position : Position) (allowed : Nat) :
    (position.toTree.readBack (allowed + 1)).isReadable = true := by
  have float : ∀ x : Binary64, ((Tree.float x).readBack allowed).isReadable = true := by
    intro x
    rw [Tree.readBack]
    split <;> rfl
  have text : position.toTree.readBack (allowed + 1) =
      .object [("x", (Tree.float position.x).readBack allowed),
        ("y", (Tree.float position.y).readBack allowed)] := rfl
  simp [text, Tree.isReadable, Tree.membersReadable, float]

theorem Edge.ofTree?_readBack (edge : Edge) (allowed : Nat) :
    ofTree? (edge.toTree.readBack (allowed + 1)) = some edge := by
  obtain ⟨⟨source, sourceHandle, target, targetHandle⟩, id⟩ := edge
  have text : (toTree ⟨⟨source, sourceHandle, target, targetHandle⟩, id⟩).readBack (allowed + 1) =
      .object [("id", .string id), ("source", .string source),
        ("sourceHandle", (Tree.nullable .string sourceHandle).readBack allowed),
        ("target", .string target),
        ("targetHandle", (Tree.nullable .string targetHandle).readBack allowed)] := rfl
  rw [text]
  simp [ofTree?, Tree.slots?, Tree.fieldSlot?, Slot.required, Slot.nullable,
    Tree.nullable?_readBack, Tree.text?]

namespace Command

def word : Command → String
  | addNode .. => "add_node"
  | setParameters .. => "update_node_parameters"
  | moveNode .. => "move_node"
  | renameNode .. => "rename_node"
  | deleteNode _ => "delete_node"
  | duplicateNode _ => "duplicate_node"
  | connect _ => "connect"
  | deleteEdge _ => "delete_edge"
  | undo => "undo"
  | redo => "redo"
  | setName _ => "set_name"
  | setDescription _ => "set_description"
  | setConfig .. => "set_config_value"
  | removeConfig _ => "remove_config_value"
  | setPublic _ => "set_public"

def arguments : Command → List (String × Option Tree)
  | addNode kind position => [("kind", some (.string kind)), ("position", some position.toTree)]
  | setParameters node values =>
    [("node_id", some (.string node)), ("params", some values.toTree)]
  | moveNode node position =>
    [("node_id", some (.string node)), ("position", some position.toTree)]
  | renameNode node label => [("node_id", some (.string node)), ("label", some (.string label))]
  | deleteNode node | duplicateNode node => [("node_id", some (.string node))]
  | connect connection =>
    [("source", some (.string connection.source)),
      ("source_handle", some (Tree.nullable .string connection.sourceHandle)),
      ("target", some (.string connection.target)),
      ("target_handle", some (Tree.nullable .string connection.targetHandle))]
  | deleteEdge edge => [("edge_id", some (.string edge))]
  | undo | redo => []
  | setName name => [("name", some (.string name))]
  | setDescription description => [("description", some (.string description))]
  | setConfig key value => [("key", some (.string key)), ("value", some value.tree)]
  | removeConfig key => [("key", some (.string key))]
  | setPublic isPublic => [("is_public", some (.bool isPublic))]

theorem toTree_eq (command : Command) : command.toTree =
    .object (Tree.members (("type", some (.string command.word)) :: command.arguments)) := by
  cases command <;> rfl

theorem distinct_arguments (command : Command) : (command.arguments.map Prod.fst).Nodup := by
  cases command <;> simp [arguments]

def IsFinite : Command → Prop
  | addNode _ position | moveNode _ position => position.IsFinite
  | _ => True

def Fits (room : Nat) : Command → Prop
  | setParameters _ values => values.Fits room
  | setConfig _ value => value.Fits room
  | _ => True

/-- The position and the free values of the command stand in parts of the tree. -/
def ReadFrom (tree : Tree) : Command → Prop
  | addNode _ position | moveNode _ position =>
    ∃ part, part.IsPart tree ∧ Position.ofTree? part = some position
  | setParameters _ values =>
    ∃ part, part.IsPart tree ∧ Tree.keyMap? Json.ofTree? part = some values
  | setConfig _ value => ∃ part, part.IsPart tree ∧ Json.ofTree? part = some value
  | _ => True

theorem readFrom_of_ofArguments? {word : String} {tree : Tree} {command : Command}
    (read : ofArguments? word tree = some command) : command.ReadFrom tree := by
  unfold ofArguments? at read
  split at read
  case h_1 | h_2 | h_3 | h_13 =>
    obtain ⟨slots, found, read⟩ := Option.bind_eq_some_iff.mp read
    split at read
    · obtain ⟨_, -, read⟩ := Option.bind_eq_some_iff.mp read
      obtain ⟨_, given, read⟩ := Option.bind_eq_some_iff.mp read
      cases read
      obtain ⟨part, rfl, inside⟩ := Slot.given_of_required given
      exact ⟨part, Tree.isPart_of_slots? found (by simp), inside⟩
    · cases read
  -- The other commands hold texts and a flag.
  case h_4 =>
    obtain ⟨slots, -, read⟩ := Option.bind_eq_some_iff.mp read
    split at read
    · obtain ⟨_, -, read⟩ := Option.bind_eq_some_iff.mp read
      obtain ⟨_, -, read⟩ := Option.bind_eq_some_iff.mp read
      cases read
      trivial
    · cases read
  case h_5 | h_6 | h_7 | h_8 | h_11 | h_12 | h_14 =>
    obtain ⟨_, -, read⟩ := Option.bind_eq_some_iff.mp read
    cases read
    trivial
  case h_9 | h_10 =>
    split at read
    · cases read
      trivial
    · cases read
  case h_15 =>
    obtain ⟨slots, -, read⟩ := Option.bind_eq_some_iff.mp read
    split at read
    · obtain ⟨_, -, read⟩ := Option.bind_eq_some_iff.mp read
      cases read
      trivial
    · cases read
  case h_16 => cases read

theorem isFinite_of_ofTree? {tree : Tree} {command : Command} (inRange : tree.InRange)
    (read : ofTree? tree = some command) : command.IsFinite := by
  obtain ⟨⟨word, arguments⟩, tagged, inside⟩ := Option.bind_eq_some_iff.mp read
  have argumentsInRange := inRange.of_tagged? tagged
  have parts := readFrom_of_ofArguments? inside
  cases command with
  | addNode | moveNode =>
    obtain ⟨part, isPart, placed⟩ := parts
    exact Position.isFinite_of_ofTree? (argumentsInRange.of_isPart isPart) placed
  | _ => trivial

theorem fits_of_ofTree? {room : Nat} {tree : Tree} {command : Command}
    (ordinary : tree.Ordinary (room + 1)) (read : ofTree? tree = some command) :
    command.Fits room := by
  obtain ⟨⟨word, arguments⟩, tagged, inside⟩ := Option.bind_eq_some_iff.mp read
  have ordinaryArguments := ordinary.of_tagged? tagged
  have parts := readFrom_of_ofArguments? inside
  cases command with
  | setParameters =>
    obtain ⟨part, isPart, values⟩ := parts
    exact KeyMap.fits_of_keyMap? (ordinaryArguments.of_isPart isPart) values
  | setConfig =>
    obtain ⟨part, isPart, value⟩ := parts
    exact Json.fits_of_ofTree? (ordinaryArguments.of_isPart isPart) value
  | _ => trivial

theorem textArgument?_readBack (name text : String) (allowed : Nat) :
    textArgument? name ((Tree.object (Tree.members [(name, some (.string text))])).readBack
      (allowed + 1)) = some text := by
  have distinct : ([(name, some (Tree.string text))].map Prod.fst).Nodup := by simp
  have slots := Tree.slots?_readBack distinct allowed
  simp only [List.map] at slots
  rw [textArgument?, slots]
  rfl

theorem connection?_readBack (connection : Connection) (allowed : Nat) :
    connection? ((Tree.object (Tree.members (arguments (connect connection)))).readBack
      (allowed + 1)) = some connection := by
  have slots := Tree.slots?_readBack (distinct_arguments (connect connection)) allowed
  simp only [arguments, List.map] at slots
  simp [connection?, arguments, slots, Slot.ofOption, Slot.required, Slot.optional,
    Tree.nullable?_readBack, Tree.text?]

theorem ofArguments?_readBack_iff {command : Command} (finite : command.IsFinite) (room : Nat) :
    ofArguments? command.word ((Tree.object (Tree.members command.arguments)).readBack (room + 2)) =
      some command ↔ command.Fits (room + 1) := by
  have slots := Tree.slots?_readBack command.distinct_arguments (room + 1)
  cases command with
  | connect connection => simp [word, ofArguments?, connection?_readBack, Fits]
  | deleteNode | duplicateNode | deleteEdge | setName | setDescription | removeConfig =>
    simp [word, ofArguments?, arguments, textArgument?_readBack, Fits]
  | undo | redo =>
    simp [word, ofArguments?, arguments, Tree.readBack_members, Tree.isFieldless, Fits]
  | addNode kind position | moveNode node position =>
    have placed := Position.ofTree?_readBack finite room
    simp only [arguments, List.map] at slots
    simp [word, ofArguments?, arguments, slots, Slot.ofOption, Slot.required, Tree.text?, placed,
      Fits]
  | setParameters node values =>
    simp only [arguments, List.map] at slots
    simp [word, ofArguments?, arguments, slots, Slot.ofOption, Slot.required, Tree.text?,
      Option.bind_eq_some_iff, KeyMap.ofTree?_readBack_iff, Fits]
  | setConfig key value =>
    simp only [arguments, List.map] at slots
    simp [word, ofArguments?, arguments, slots, Slot.ofOption, Slot.required, Tree.text?,
      Option.bind_eq_some_iff, Json.ofTree?_readBack_iff, Fits]
  | renameNode | setPublic =>
    simp only [arguments, List.map] at slots
    simp [word, ofArguments?, arguments, slots, Slot.ofOption, Slot.required, Tree.text?,
      Tree.bool?, Fits]

theorem isReadable_arguments {command : Command} {room : Nat} (fits : command.Fits (room + 1)) :
    ((Tree.object (Tree.members command.arguments)).readBack (room + 2)).isReadable = true := by
  rw [Tree.readBack_members]
  cases command with
  | setParameters node values =>
    simp [arguments, Tree.members_some, Tree.members_nil, Tree.isReadable, Tree.membersReadable,
      KeyMap.isReadable_readBack fits]
  | setConfig key value =>
    simp [arguments, Tree.members_some, Tree.members_nil, Tree.isReadable, Tree.membersReadable,
      Json.isReadable_readBack fits]
  | _ =>
    simp [arguments, Tree.members_some, Tree.members_nil, Tree.isReadable, Tree.membersReadable,
      Tree.isReadable_nullable_readBack, Position.isReadable_readBack]

theorem ofTree?_readBack_iff {command : Command} (finite : command.IsFinite) (room : Nat) :
    ofTree? (command.toTree.readBack (room + 2)) = some command ↔ command.Fits (room + 1) := by
  have new : "type" ∉ command.arguments.map Prod.fst := by
    cases command <;> simp [arguments]
  rw [toTree_eq, ofTree?, Tree.tagged?_readBack command.word new]
  dsimp only
  -- An argument nested too deep is refused before anyone knows what command it is for.
  split
  · exact ofArguments?_readBack_iff finite room
  · rename_i unreadable
    exact ⟨nofun, fun fits => absurd (isReadable_arguments fits) unreadable⟩

end Command

end SignalGraph
