import SignalGraph.Graph.Basic

/-! The commands by which a user edits a draft. -/

set_option autoImplicit false

namespace SignalGraph

inductive Command where
  | addNode (kind : String) (position : Position)
  | setParameters (node : String) (values : KeyMap Json)
  | moveNode (node : String) (position : Position)
  | renameNode (node label : String)
  | deleteNode (node : String)
  | duplicateNode (node : String)
  | connect (connection : Connection)
  | deleteEdge (edge : String)
  | undo
  | redo
  | setName (name : String)
  | setDescription (description : String)
  | setConfig (key : String) (value : Json)
  | removeConfig (key : String)
  | setPublic (isPublic : Bool)

namespace Command

/-- A tagged record: a word for the command, and its arguments by name. -/
def record (word : String) (arguments : List (String × Tree)) : Tree :=
  .object (("type", .string word) :: arguments)

def toTree : Command → Tree
  | addNode kind position =>
    record "add_node" [("kind", .string kind), ("position", position.toTree)]
  | setParameters node values =>
    record "update_node_parameters" [("node_id", .string node), ("params", values.toTree)]
  | moveNode node position =>
    record "move_node" [("node_id", .string node), ("position", position.toTree)]
  | renameNode node label =>
    record "rename_node" [("node_id", .string node), ("label", .string label)]
  | deleteNode node => record "delete_node" [("node_id", .string node)]
  | duplicateNode node => record "duplicate_node" [("node_id", .string node)]
  | connect connection =>
    record "connect" [("source", .string connection.source),
      ("source_handle", Tree.nullable .string connection.sourceHandle),
      ("target", .string connection.target),
      ("target_handle", Tree.nullable .string connection.targetHandle)]
  | deleteEdge edge => record "delete_edge" [("edge_id", .string edge)]
  | undo => record "undo" []
  | redo => record "redo" []
  | setName name => record "set_name" [("name", .string name)]
  | setDescription description =>
    record "set_description" [("description", .string description)]
  | setConfig key value =>
    record "set_config_value" [("key", .string key), ("value", value.tree)]
  | removeConfig key => record "remove_config_value" [("key", .string key)]
  | setPublic isPublic => record "set_public" [("is_public", .bool isPublic)]

/-- The one text argument of a command. -/
def textArgument? (name : String) (arguments : Tree) : Option String := do
  let [text] ← arguments.slots? [[name]] | none
  text.required Tree.text?

def connection? (arguments : Tree) : Option Connection := do
  let [source, sourceHandle, target, targetHandle] ← arguments.slots?
    [["source"], ["source_handle"], ["target"], ["target_handle"]] | none
  return {
    source := ← source.required Tree.text?
    sourceHandle := ← sourceHandle.optional Tree.text?
    target := ← target.required Tree.text?
    targetHandle := ← targetHandle.optional Tree.text?
  }

def ofArguments? (word : String) (arguments : Tree) : Option Command := do
  match word with
  | "add_node" =>
    let [kind, position] ← arguments.slots? [["kind"], ["position"]] | none
    return addNode (← kind.required Tree.text?) (← position.required Position.ofTree?)
  | "update_node_parameters" =>
    let [node, values] ← arguments.slots? [["node_id"], ["params"]] | none
    return setParameters (← node.required Tree.text?)
      (← values.required (Tree.keyMap? Json.ofTree?))
  | "move_node" =>
    let [node, position] ← arguments.slots? [["node_id"], ["position"]] | none
    return moveNode (← node.required Tree.text?) (← position.required Position.ofTree?)
  | "rename_node" =>
    let [node, label] ← arguments.slots? [["node_id"], ["label"]] | none
    return renameNode (← node.required Tree.text?) (← label.required Tree.text?)
  | "delete_node" => return deleteNode (← textArgument? "node_id" arguments)
  | "duplicate_node" => return duplicateNode (← textArgument? "node_id" arguments)
  | "connect" => return connect (← connection? arguments)
  | "delete_edge" => return deleteEdge (← textArgument? "edge_id" arguments)
  | "undo" => if arguments.isFieldless then some undo else none
  | "redo" => if arguments.isFieldless then some redo else none
  | "set_name" => return setName (← textArgument? "name" arguments)
  | "set_description" => return setDescription (← textArgument? "description" arguments)
  | "set_config_value" =>
    let [key, value] ← arguments.slots? [["key"], ["value"]] | none
    return setConfig (← key.required Tree.text?) (← value.required Json.ofTree?)
  | "remove_config_value" => return removeConfig (← textArgument? "key" arguments)
  | "set_public" =>
    let [isPublic] ← arguments.slots? [["is_public"]] | none
    return setPublic (← isPublic.required Tree.bool?)
  | _ => none

def ofTree? (tree : Tree) : Option Command := do
  let (word, arguments) ← tree.tagged? "type"
  ofArguments? word arguments

end Command

end SignalGraph
