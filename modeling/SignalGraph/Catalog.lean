import SignalGraph.Catalog.BuiltIn
import SignalGraph.Json.Reader

/-! The catalog of an editing session: the built-in kinds, with the entries of a backend laid
over them. The last entry of a kind wins; kinds keep the place of their first definition.
-/

set_option autoImplicit false

namespace SignalGraph

namespace CatalogEntry

/-- The definition an entry stands for. A kind known by name keeps its category, whatever the
entry says, and its handle layout. -/
def definition (entry : CatalogEntry) : Definition :=
  let category := (BuiltIn.category? entry.kind).getD
    ((entry.category.map Category.ofCatalog).getD .indicator)
  { kind := entry.kind
    name := entry.name
    description := entry.description
    category
    parameters := entry.parameters.entries.map fun (id, parameter) => { parameter with id }
    handles := .ofKind entry.kind category }

end CatalogEntry

/-- Definitions in the order in which their kinds came, and the slot in which each kind has its
own. -/
structure Catalog where
  definitions : List Definition
  slots : List (String × Nat)

namespace Catalog

def empty : Catalog := ⟨[], []⟩

def definition? (catalog : Catalog) (kind : String) : Option Definition :=
  (catalog.slots.lookup kind).bind fun slot => catalog.definitions[slot]?

def contains (catalog : Catalog) (kind : String) : Bool := (catalog.slots.lookup kind).isSome

/-- Put a definition in the slot of its kind, or in a new one behind the others. -/
def insert (catalog : Catalog) (definition : Definition) : Catalog :=
  match catalog.slots.lookup definition.kind with
  | some slot => { catalog with definitions := catalog.definitions.set slot definition }
  | none =>
    ⟨catalog.definitions ++ [definition],
      (definition.kind, catalog.definitions.length) :: catalog.slots⟩

def builtIn : Catalog := BuiltIn.definitions.foldl insert empty

def ofEntries (entries : List CatalogEntry) : Catalog :=
  entries.foldl (fun catalog entry => catalog.insert entry.definition) builtIn

/-- The catalog with the entries a text lists. -/
def ofText? (text : String) : Option Catalog := do
  let tree ← Tree.read? text
  return ofEntries (← tree.list? CatalogEntry.ofTree?)

/-- The defaults of a kind; none for a kind the catalog does not have. -/
def defaults (catalog : Catalog) (kind : String) : KeyMap Json :=
  ((catalog.definition? kind).map Definition.defaults).getD .empty

/-- The name of a kind, or the kind itself if the catalog does not have it. -/
def displayName (catalog : Catalog) (kind : String) : String :=
  ((catalog.definition? kind).map Definition.name).getD kind

def handles? (catalog : Catalog) (kind : String) : Option Handles :=
  (catalog.definition? kind).map Definition.handles

def category? (catalog : Catalog) (kind : String) : Option Category :=
  (catalog.definition? kind).map Definition.category

def parameter? (catalog : Catalog) (kind id : String) : Option Parameter :=
  (catalog.definition? kind).bind (·.parameter? id)

/-- Nodes of the kind are where a strategy ends. -/
def isTerminal (catalog : Catalog) (kind : String) : Bool :=
  kind = BuiltIn.signalOutput || catalog.category? kind = some .output

def inCategory (catalog : Catalog) (category : Category) : List Definition :=
  catalog.definitions.filter fun definition => definition.category = category

end Catalog

end SignalGraph
