import SignalGraph.Text.Blank
import SignalGraph.Text.Case
import SignalGraph.Number.Numeral
import SignalGraph.Json.Record
import SignalGraph.Json.Printer

/-! Parameters of a node kind: what type of value one takes, and how an entered value is
brought to that type.
-/

set_option autoImplicit false

namespace SignalGraph

inductive ParameterType where
  | number
  | select
  | boolean
  | text
  deriving DecidableEq

namespace ParameterType

def word : ParameterType → String
  | number => "number"
  | select => "select"
  | boolean => "boolean"
  | text => "text"

def ofWord? : String → Option ParameterType
  | "number" => some number
  | "select" => some select
  | "boolean" => some boolean
  | "text" => some text
  | _ => none

end ParameterType

structure Parameter where
  id : String
  type : ParameterType
  default : Option Json
  min : Option Binary64
  max : Option Binary64
  step : Option Binary64
  /-- The values a select may take; without a list it takes any text. -/
  options : Option (List String)
  description : Option String

namespace Parameter

/-- A number as JSON: an integer where it has one below `2 ^ 63` in size, else a float. -/
def numberValue (x : Binary64) : Json :=
  match x.toInt? with
  | some n => if n.natAbs < power 2 63 then .integer n else .float x
  | none => .float x

/-- The double that was entered, as a number or as text. -/
def enteredNumber? : Tree → Option Binary64
  | .string text => Numeral.double? (trim text)
  | tree => tree.number?

def enteredBoolean? : Tree → Option Bool
  | .bool value => some value
  | .string text =>
    if lowercase text = "true" then some true
    else if lowercase text = "false" then some false
    else none
  | _ => none

/-- The entered value as one of the declared type, if it can be read as one. -/
def accept? (parameter : Parameter) (value : Json) : Option Json :=
  match parameter.type with
  | .number =>
    ((enteredNumber? value.tree).filter fun x => decide x.IsFinite).map numberValue
  | .boolean => (enteredBoolean? value.tree).map .bool
  | .select =>
    match value.tree, parameter.options with
    | .string chosen, some options => if chosen ∈ options then some (.string chosen) else none
    | .string chosen, none => some (.string chosen)
    | _, _ => none
  | .text =>
    match value.tree with
    | .string text => some (.string text)
    | .null => none
    | tree => some (.string tree.compact)

/-- The value a parameter takes when it cannot take what was entered. -/
def fallback (parameter : Parameter) : Json := parameter.default.getD .null

/-- Bring an entered value to the declared type. -/
def coerce (parameter : Parameter) (value : Json) : Json :=
  (parameter.accept? value).getD parameter.fallback

/-- The declared step, or one that suits the range. -/
def effectiveStep (parameter : Parameter) : Binary64 :=
  match parameter.step, parameter.min, parameter.max with
  | some step, _, _ => step
  | none, some min, some max =>
    let range := max - min
    if range.less 1.0 then 0.0001 else if range.less 10.0 then 0.1 else 1.0
  | none, _, _ => 1.0

def toTree (parameter : Parameter) : Tree :=
  .object (
    [("id", .string parameter.id), ("type", .string parameter.type.word)] ++
    Tree.optionalMember "default" Json.tree parameter.default ++
    Tree.optionalMember "min" .float parameter.min ++
    Tree.optionalMember "max" .float parameter.max ++
    Tree.optionalMember "step" .float parameter.step ++
    Tree.optionalMember "options" (fun options => .array (options.map .string)) parameter.options ++
    Tree.optionalMember "description" .string parameter.description)

def ofTree? (tree : Tree) : Option Parameter := do
  let [id, type, default, min, max, step, options, description] ← tree.slots?
    [["id"], ["type"], ["default"], ["min"], ["max"], ["step"], ["options"], ["description"]] | none
  return {
    id := ← id.orDefault Tree.text? ""
    type := ← type.required (Tree.word? ParameterType.ofWord?)
    default := ← default.optional Json.ofTree?
    min := ← min.optional Tree.number?
    max := ← max.optional Tree.number?
    step := ← step.optional Tree.number?
    options := ← options.optional (Tree.list? Tree.text?)
    description := ← description.optional Tree.text?
  }

end Parameter

end SignalGraph
