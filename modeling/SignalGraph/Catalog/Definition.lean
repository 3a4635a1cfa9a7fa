import SignalGraph.Catalog.Handles
import SignalGraph.Catalog.Parameter

/-! Definitions of node kinds, and the catalog entries that a backend serves for them. -/

set_option autoImplicit false

namespace SignalGraph

structure Definition where
  kind : String
  name : String
  description : Option String
  category : Category
  parameters : List Parameter
  handles : Handles

namespace Definition

def parameter? (definition : Definition) (id : String) : Option Parameter :=
  definition.parameters.find? fun parameter => parameter.id = id

/-- The defaults of the parameters that declare one; of two with one id the later counts. -/
def defaults (definition : Definition) : KeyMap Json :=
  .ofList (definition.parameters.filterMap fun parameter =>
    parameter.default.map (parameter.id, ·))

def toTree (definition : Definition) : Tree :=
  .object [("kind", .string definition.kind), ("name", .string definition.name),
    ("description", Tree.nullable .string definition.description),
    ("category", .string definition.category.word),
    ("params", .array (definition.parameters.map Parameter.toTree)),
    ("handles", definition.handles.toTree)]

def ofTree? (tree : Tree) : Option Definition := do
  let [kind, name, description, category, parameters, handles] ← tree.slots?
    [["kind"], ["name"], ["description"], ["category"], ["params"], ["handles"]] | none
  return {
    kind := ← kind.required Tree.text?
    name := ← name.required Tree.text?
    description := ← description.nullable Tree.text?
    category := ← category.required (Tree.word? Category.ofWord?)
    parameters := ← parameters.required (Tree.list? Parameter.ofTree?)
    handles := ← handles.required Handles.ofTree?
  }

end Definition

/-- A catalog entry. Its parameters are keyed by id. -/
structure CatalogEntry where
  kind : String
  name : String
  description : Option String
  category : Option String
  parameters : KeyMap Parameter

namespace CatalogEntry

def toTree (entry : CatalogEntry) : Tree :=
  .object [("kind", .string entry.kind), ("name", .string entry.name),
    ("description", Tree.nullable .string entry.description),
    ("category", Tree.nullable .string entry.category),
    ("params", .object (entry.parameters.entries.map fun (id, parameter) => (id, parameter.toTree)))]

def ofTree? (tree : Tree) : Option CatalogEntry := do
  let [kind, name, description, category, parameters] ← tree.slots?
    [["kind", "type"], ["name"], ["description"], ["category"], ["params"]] | none
  return {
    kind := ← kind.required Tree.text?
    name := ← name.required Tree.text?
    description := ← description.optional Tree.text?
    category := ← category.optional Tree.text?
    parameters := ← parameters.orDefault (Tree.keyMap? Parameter.ofTree?) .empty
  }

end CatalogEntry

end SignalGraph
