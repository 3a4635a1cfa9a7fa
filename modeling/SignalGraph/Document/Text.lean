import SignalGraph.Document.Basic
import SignalGraph.Json.Reader
import SignalGraph.Json.Printer
import SignalGraph.Sha256

/-! Documents as text: written in two layouts, hashed, and read in two ways.

A file from outside is first read as a value, in which the last of several members with one
key counts, and looked over for the one list it needs. A text that was stored is read straight.
-/

set_option autoImplicit false

namespace SignalGraph

/-- Why a text is not a document. -/
inductive ImportError where
  | invalidJson
  | missingGraph
  | nodesNotAList
  /-- It has a graph with a list of nodes, but some member is not what it should be. -/
  | malformed
  deriving DecidableEq

def ImportError.message : ImportError → String
  | invalidJson => "Invalid JSON"
  | missingGraph => "Malformed strategy document: missing graph"
  | nodesNotAList => "Malformed strategy document: graph.nodes must be a list"
  | malformed => "Malformed strategy document"

namespace Document

def compact (document : Document) : String := document.toTree.compact

def pretty (document : Document) : String := document.toTree.indented

/-- The digest of the compact text. -/
def contentHash (document : Document) : String := Sha256.hex document.compact

/-- The graph of a document value, under its present or its older name. -/
def graphMember? (tree : Tree) : Option Tree :=
  (tree.member? "graph").or (tree.member? "strategy_graph")

/-- A document from a value. -/
def ofValue (value : Json) : Except ImportError Document :=
  match graphMember? value.tree with
  | none => .error .missingGraph
  | some graph =>
    if ((graph.member? "nodes").map Tree.isArray).getD false then
      match ofTree? value.tree with
      | some document => .ok document
      | none => .error .malformed
    else .error .nodesNotAList

/-- A document from a file. -/
def parse (text : String) : Except ImportError Document :=
  match Json.ofText? text with
  | none => .error .invalidJson
  | some value => ofValue value

/-- A document from a text that was stored. -/
def ofStored? (text : String) : Option Document := (Tree.read? text).bind ofTree?

end Document

end SignalGraph
