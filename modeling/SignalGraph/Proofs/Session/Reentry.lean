import SignalGraph.Proofs.Catalog.Reentry
import SignalGraph.Proofs.Session.Conforming

/-! Shown values that are entered again.

Entering a shown value again leaves the draft as it is if the parameter takes the value as it stands
and, for the code of a script, if the label follows the code. Documents bring values that no
parameter has taken. In sessions that are driven by commands all of them have been coerced, and only
defaults that are whole numbers held as floats are changed.
-/

set_option autoImplicit false

namespace SignalGraph

theorem KeyMap.get?_single {α : Type} (key other : String) (value : α) :
    (ofList [(key, value)]).get? other = if other = key then some value else none :=
  get?_insert .empty key other value

namespace Node

variable {node : Node} (catalog : Catalog) {id : String} {shown : Json}

theorem enter_single_iff (found : node.parameters.get? id = some shown) :
    node.enter catalog (.ofList [(id, shown)]) = node.parameters ↔
      catalog.entered node.kind id shown = shown := by
  have entered := node.get?_enter catalog (.ofList [(id, shown)])
  simp only [KeyMap.get?_single] at entered
  constructor
  · intro same
    have here := entered id
    rw [same, found, if_pos rfl] at here
    exact (Option.some.inj here).symm
  · intro kept
    refine KeyMap.eq_of_get? fun key => ?_
    rw [entered]
    by_cases same : key = id
    · rw [if_pos same, Option.map_some, same, kept, found, Option.some_or]
    · rw [if_neg same, Option.map_none, Option.none_or]

/-- The label is the one that the node gets when these values, which it has, are entered. -/
def KeepsLabel (node : Node) (catalog : Catalog) (values : KeyMap Json) : Prop :=
  node.labelAfter catalog values node.parameters = node.label

theorem withParameters_single_iff (found : node.parameters.get? id = some shown) :
    node.withParameters catalog (.ofList [(id, shown)]) = node ↔
      catalog.entered node.kind id shown = shown ∧
        node.KeepsLabel catalog (.ofList [(id, shown)]) := by
  rw [← enter_single_iff catalog found]
  constructor
  · intro same
    have parameters : node.enter catalog (.ofList [(id, shown)]) = node.parameters :=
      congrArg Node.parameters same
    refine ⟨parameters, ?_⟩
    have label := congrArg Node.label same
    rw [KeepsLabel, ← parameters]
    exact label
  · rintro ⟨parameters, label⟩
    rw [withParameters, parameters, label]

end Node

namespace Session

variable {session : Session} {id : String} {node : Node}

/-- Enter once more what is shown for a parameter of a node. -/
def reenter (session : Session) (id parameter : String) (shown : Json) : Session :=
  (session.dispatch "" (.setParameters id (.ofList [(parameter, shown)]))).2

theorem reenter_draft_iff {parameter : String} {shown : Json}
    (found : session.draft.graph.node? id = some node)
    (held : node.parameters.get? parameter = some shown) :
    (session.reenter id parameter shown).draft = session.draft ↔
      session.catalog.entered node.kind parameter shown = shown ∧
        node.KeepsLabel session.catalog (.ofList [(parameter, shown)]) := by
  have present : (session.draft.graph.node? id).isSome = true := by rw [found, Option.isSome_some]
  have nodes := Graph.changeFirst_eq_self_iff
    (fun node => node.withParameters session.catalog (.ofList [(parameter, shown)])) found
  simp only [reenter, dispatch, Graph.setParameters?, Graph.change?, if_pos present, applyEdit,
    edit, withGraph]
  rw [← Node.withParameters_single_iff session.catalog held, ← nodes]
  constructor
  · exact fun same => congrArg (fun draft => draft.graph.nodes) same
  · exact fun same => by rw [same]

/-- When entering a shown value again leaves the draft as it is. -/
def Reshows (session : Session) (id : String) (node : Node) (parameter : Parameter) (shown : Json) :
    Prop :=
  (session.reenter id parameter.id shown).draft = session.draft ↔
    parameter.coerce shown = shown ∧
      node.KeepsLabel session.catalog (.ofList [(parameter.id, shown)])

theorem reshows (sound : session.catalog.Sound) (found : session.draft.graph.node? id = some node)
    {definition : Definition} (resolved : session.catalog.definition? node.kind = some definition)
    {parameter : Parameter} (listed : parameter ∈ definition.parameters) {shown : Json}
    (held : node.parameters.get? parameter.id = some shown) :
    session.Reshows id node parameter shown := by
  rw [Reshows, reenter_draft_iff found held, sound.entered_eq resolved listed]

end Session

/-- The value is what the parameter makes of some value. -/
def Parameter.HasCoerced (parameter : Parameter) (shown : Json) : Prop :=
  ∃ value, shown = parameter.coerce value

/-- The value has been coerced. It is taken as it stands but for a whole number held as a float. -/
structure Parameter.Shows (parameter : Parameter) (shown : Json) : Prop where
  coerced : parameter.HasCoerced shown
  kept : parameter.coerce shown = shown ↔ ¬shown.IsWholeFloat

namespace Editing

variable {settings : Settings} {state : Editing}

/-- The values of all nodes that commands made have been coerced. -/
theorem commands_coerced (reached : (start .builtIn settings).Reaches Commands state) :
    ∀ node ∈ state.session.draft.graph.nodes, node.Fills .builtIn Parameter.HasCoerced := by
  have coerced : ∀ parameter : Parameter, parameter.isSound = true → ∀ value,
      parameter.HasCoerced (parameter.coerce value) := fun _ _ value => ⟨value, rfl⟩
  have maintained :=
    Catalog.builtIn_sound.fills_maintained coerced (fun _ => True) settings.duplicateOffset
  have everywhere := reached.everywhere_of_commands
    (P := fun graph => ∀ node ∈ graph.nodes, node.Fills .builtIn Parameter.HasCoerced)
    (fun _ member => absurd member List.not_mem_nil)
    fun all edited => edited.forall_nodes maintained all
  exact everywhere.draft

/-- A value that is entered for a parameter of a built-in kind, and entered again as it is shown,
stays as it is, unless it is a default that is a whole number and held as a float. In every state of
every run, entering a shown value again leaves the draft as it is if just that value is taken as it
stands, and the label with it. -/
theorem reaches_reenters (reached : (start .builtIn settings).Reaches Any state) :
    (∀ definition ∈ BuiltIn.definitions, ∀ parameter ∈ definition.parameters, ∀ value,
      parameter.Reenters value) ∧
    ∀ id node, state.session.draft.graph.node? id = some node →
      (∀ definition, Catalog.builtIn.definition? node.kind = some definition →
        ∀ parameter ∈ definition.parameters, ∀ shown,
          node.parameters.get? parameter.id = some shown →
            state.session.Reshows id node parameter shown) ∧
      ((start .builtIn settings).Reaches Commands state → node.Fills .builtIn Parameter.Shows) := by
  refine ⟨fun definition member parameter listed => BuiltIn.reenters member listed, ?_⟩
  intro id node found
  constructor
  · intro definition resolved parameter listed shown held
    have same := reached.brings_any.surroundings.1
    exact Session.reshows (same ▸ Catalog.builtIn_sound) found (same ▸ resolved) listed held
  · intro commands definition resolved parameter listed
    have present := List.mem_of_find?_eq_some found
    obtain ⟨_, held, value, rfl⟩ :=
      commands_coerced commands node present definition resolved parameter listed
    have member := Catalog.mem_builtIn (Catalog.mem_of_definition? resolved)
    have sound := (BuiltIn.sound member).fallbacks parameter listed
    have plain := BuiltIn.hasPlainDefault member listed
    exact ⟨_, held, ⟨value, rfl⟩, Parameter.coerce_again_iff sound plain value⟩

/-- A new constant shows 0.0, and entering that leaves 0. -/
theorem reaches_reenters_constant :
    let node := Graph.newNode .builtIn "node-1" "constant" ⟨0.0, 0.0⟩
    let state := (start .builtIn .standard).step
      (.command "node-1" (.addNode "constant" ⟨0.0, 0.0⟩))
    let again := state.session.reenter "node-1" "value" (.float 0.0)
    (state.session.draft.graph == again.draft.graph) = false ∧
      (again.draft.graph.nodes.map fun node =>
        (node.parameters.get? "value").map (·.tree.signed?)) = [some (some 0)] ∧
      (start .builtIn .standard).Reaches Any state ∧
      (start .builtIn .standard).Reaches Commands state ∧
      state.session.draft.graph.node? "node-1" = some node ∧
      node.Fills .builtIn Parameter.Shows := by
  intro node state again
  have commands : (start .builtIn .standard).Reaches Commands state := .step .refl trivial
  have reached : (start .builtIn .standard).Reaches Any state := .step .refl trivial
  have found : state.session.draft.graph.node? "node-1" = some node := rfl
  exact ⟨by decide +kernel, by decide +kernel, reached, commands, found,
    ((reaches_reenters reached).2 "node-1" node found).2 commands⟩

end Editing

end SignalGraph
