import SignalGraph.Proofs.Catalog.Conforming
import SignalGraph.Proofs.Title

/-! Values entered for the parameters of a node.

They are laid over those that the node has, each as its parameter takes it. The label of a script
follows the code that is then stored, which need not be the code that was entered. Nothing else
changes, and entering the same values again changes nothing.
-/

set_option autoImplicit false

namespace SignalGraph

namespace Node

/-- What a node holds as its code, if that is a text. -/
def codeText? (node : Node) : Option String :=
  (node.parameters.get? "code").bind fun value => value.tree.text?

/-- New code is among the values, and the node is a script. -/
def Scripted (node : Node) (values : KeyMap Json) : Prop :=
  node.kind = BuiltIn.pineScript ∧ values.contains "code" = true

/-- What becomes of a node when values are entered for it. -/
structure Takes (catalog : Catalog) (values : KeyMap Json) (node after : Node) : Prop where
  id : after.id = node.id
  kind : after.kind = node.kind
  position : after.position = node.position
  absent : ∀ key, values.contains key = false →
    after.parameters.get? key = node.parameters.get? key
  declared : ∀ key value parameter, values.get? key = some value →
    catalog.parameter? node.kind key = some parameter →
    after.parameters.get? key = some (parameter.coerce value)
  undeclared : ∀ key value, values.get? key = some value →
    catalog.parameter? node.kind key = none → after.parameters.get? key = some value
  unscripted : ¬node.Scripted values → after.label = node.label
  titled : node.Scripted values → ∀ code title, after.codeText? = some code →
    Title.ofCode? code = some title → after.label = title
  /-- The code that is stored is blank, or no text at all. -/
  codeless : node.Scripted values →
    (∀ code, after.codeText? = some code → isBlankText code = true) →
    after.label = catalog.displayName node.kind
  untitled : node.Scripted values → ∀ code, after.codeText? = some code →
    isBlankText code = false → Title.ofCode? code = none → after.label = node.label

variable (node : Node) (catalog : Catalog) (values : KeyMap Json)

theorem label_withParameters (scripted : node.Scripted values) :
    (node.withParameters catalog values).label =
      match Title.ofCode? (((node.withParameters catalog values).codeText?).getD "") with
      | some title => title
      | none =>
        if isBlankText (((node.withParameters catalog values).codeText?).getD "") then
          catalog.displayName node.kind
        else node.label := if_pos scripted

theorem takes_withParameters : node.Takes catalog values (node.withParameters catalog values) := by
  have entered : ∀ key, (node.withParameters catalog values).parameters.get? key =
      ((values.get? key).map (catalog.entered node.kind key)).or (node.parameters.get? key) :=
    node.get?_enter catalog values
  constructor
  case id => rfl
  case kind => rfl
  case position => rfl
  case absent =>
    intro key missing
    rw [entered, Option.isSome_eq_false_iff.mp missing |> Option.isNone_iff_eq_none.mp]
    rfl
  case declared =>
    intro key value parameter given declared
    rw [entered, given, Option.map_some, Catalog.entered, declared]
    rfl
  case undeclared =>
    intro key value given undeclared
    rw [entered, given, Option.map_some, Catalog.entered, undeclared]
    rfl
  case unscripted => exact fun other => if_neg other
  case titled =>
    intro scripted code title stored declared
    rw [label_withParameters node catalog values scripted, stored, Option.getD_some, declared]
  case codeless =>
    intro scripted blank
    have nothing :
        isBlankText (((node.withParameters catalog values).codeText?).getD "") = true := by
      cases stored : (node.withParameters catalog values).codeText? with
      | none => rfl
      | some code => exact blank code stored
    rw [label_withParameters node catalog values scripted, Title.ofCode?_eq_none_of_blank nothing]
    exact if_pos nothing
  case untitled =>
    intro scripted code stored solid undeclared
    rw [label_withParameters node catalog values scripted, stored, Option.getD_some, undeclared]
    exact if_neg (Bool.eq_false_iff.mp solid)

theorem withParameters_withParameters :
    (node.withParameters catalog values).withParameters catalog values =
      node.withParameters catalog values := by
  have parameters : (node.withParameters catalog values).enter catalog values =
      node.enter catalog values := by
    refine KeyMap.eq_of_get? fun key => ?_
    rw [get?_enter]
    have before : (node.withParameters catalog values).parameters.get? key = _ :=
      node.get?_enter catalog values key
    rw [before, get?_enter]
    cases values.get? key <;> rfl
  have label : (node.withParameters catalog values).labelAfter catalog values
      (node.enter catalog values) = node.labelAfter catalog values (node.enter catalog values) := by
    -- A label that was kept is kept again, as the code is the one that was stored.
    simp only [labelAfter, withParameters]
    split
    · split
      · rfl
      · split <;> rfl
    · rfl
  rw [withParameters, parameters, label]
  rfl

end Node

namespace Graph

variable {graph : Graph} {id : String} {node : Node}

/-- Values that are entered for a node change that node alone, and entering them again changes
nothing. -/
theorem setParameters?_takes (catalog : Catalog) (values : KeyMap Json)
    (distinct : graph.nodeIds.Nodup) (found : graph.node? id = some node) :
    ∃ after next, graph.setParameters? catalog id values = some next ∧
      node.Takes catalog values after ∧
      next.nodes = graph.nodes.map (fun other => if other.id = id then after else other) ∧
      next.edges = graph.edges ∧ next.setParameters? catalog id values = some next := by
  let enter (node : Node) : Node := node.withParameters catalog values
  let next : Graph := { graph with nodes := changeFirst id enter graph.nodes }
  have present : (graph.node? id).isSome = true := by rw [found, Option.isSome_some]
  have again : next.node? id = some (enter node) := find?_changeFirst (fun _ => rfl) found
  have settled : changeFirst id enter next.nodes = next.nodes :=
    (changeFirst_eq_self_iff enter again).mpr (node.withParameters_withParameters catalog values)
  refine ⟨enter node, next, if_pos present, node.takes_withParameters catalog values,
    changeFirst_eq_map distinct enter found, rfl, ?_⟩
  rw [setParameters?, change?, again, Option.isSome_some, if_pos rfl, settled]

/-- The code of a script gives the label, and a value for which no parameter is declared stays as it
was entered. -/
theorem setParameters?_takes_code :
    let node (id : String) : Node :=
      ⟨id, "pinescript", ⟨0.0, 0.0⟩, "Old", .ofList [("length", .integer 3)]⟩
    let values : KeyMap Json :=
      .ofList [("code", .string "strategy('Cross')"), ("shift", .integer 1)]
    let graph : Graph := ⟨[node "a", node "b"], []⟩
    graph.nodeIds.Nodup ∧ graph.node? "b" = some (node "b") ∧
      ∃ after next, graph.setParameters? .builtIn "b" values = some next ∧
        next.nodes = [node "a", after] ∧ next.nodes.map (·.label) = ["Old", "Cross"] ∧
        after.parameters.get? "length" = some (.integer 3) ∧
        after.parameters.get? "shift" = some (.integer 1) ∧
        next.setParameters? .builtIn "b" values = some next := by
  intro node values graph
  have distinct : graph.nodeIds.Nodup := by decide
  have found : graph.node? "b" = some (node "b") := rfl
  obtain ⟨after, next, set, takes, nodes, -, again⟩ :=
    setParameters?_takes .builtIn values distinct found
  refine ⟨distinct, found, after, next, set, nodes, ?labels, ?kept, ?raw, again⟩
  case labels =>
    have labels : (graph.setParameters? .builtIn "b" values).map
        (fun next => next.nodes.map (·.label)) = some ["Old", "Cross"] := by decide +kernel
    rw [set] at labels
    exact Option.some.inj labels
  case kept => exact takes.absent "length" (by decide +kernel)
  case raw =>
    have undeclared : (Catalog.builtIn.parameter? "pinescript" "shift").isNone = true := by
      decide +kernel
    exact takes.undeclared "shift" (.integer 1) rfl (Option.isNone_iff_eq_none.mp undeclared)

end Graph

end SignalGraph
