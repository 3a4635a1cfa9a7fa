import SignalGraph.Proofs.Graph.Wiring

/-! Which connections a graph admits.

Six rules are looked at one after the other. Those about handles ask nothing of a node whose kind
the catalog does not have. What is told is the first rule that is broken, and what breaks it.
-/

set_option autoImplicit false

namespace SignalGraph

inductive Rule where
  | knownSource
  | knownTarget
  | apart
  | declaredInput
  | hasOutput
  | anonymousSource

def Rule.inOrder : List Rule :=
  [knownSource, knownTarget, apart, declaredInput, hasOutput, anonymousSource]

theorem Rule.mem_inOrder (rule : Rule) : rule ∈ inOrder := by
  cases rule <;> simp [inOrder]

theorem Handles.declaresInput_iff {handles : Handles} {handle : Option String} :
    handles.declaresInput handle = true ↔ ∃ input ∈ handles.inputs, input.id = handle := by
  simp [declaresInput, input?]

namespace Graph

variable {catalog : Catalog} {graph : Graph} {connection : Connection} {rule : Rule}
  {reason : Rejection} {node : Node} {id : String}

/-- What a rule asks of a connection. -/
def Keeps (catalog : Catalog) (graph : Graph) (connection : Connection) : Rule → Prop
  | .knownSource => ∃ node ∈ graph.nodes, node.id = connection.source
  | .knownTarget => ∃ node ∈ graph.nodes, node.id = connection.target
  | .apart => connection.source ≠ connection.target
  | .declaredInput => ∀ node ∈ graph.nodes, node.id = connection.target →
    ∀ handles, catalog.handles? node.kind = some handles →
      ∃ input ∈ handles.inputs, input.id = connection.targetHandle
  | .hasOutput => ∀ node ∈ graph.nodes, node.id = connection.source →
    ∀ handles, catalog.handles? node.kind = some handles → handles.hasOutput = true
  | .anonymousSource => ∀ node ∈ graph.nodes, node.id = connection.source →
    ∀ handles, catalog.handles? node.kind = some handles → connection.sourceHandle = none

/-- The connection breaks the rule and keeps all rules before it. -/
def BreaksFirst (catalog : Catalog) (graph : Graph) (connection : Connection) (rule : Rule) :
    Prop :=
  ∃ before after, Rule.inOrder = before ++ rule :: after ∧
    ¬graph.Keeps catalog connection rule ∧
    ∀ earlier ∈ before, graph.Keeps catalog connection earlier

/-- The reason tells that the rule is broken, and by what. -/
inductive Tells (graph : Graph) (connection : Connection) : Rule → Rejection → Prop where
  | knownSource : graph.Tells connection .knownSource (.unknownSource connection.source)
  | knownTarget : graph.Tells connection .knownTarget (.unknownTarget connection.target)
  | apart : graph.Tells connection .apart (.selfLoop connection.source)
  | declaredInput {node : Node} (member : node ∈ graph.nodes)
    (target : node.id = connection.target) : graph.Tells connection .declaredInput
      (.undeclaredTargetHandle node.kind connection.targetHandle)
  | hasOutput {node : Node} (member : node ∈ graph.nodes) (source : node.id = connection.source) :
    graph.Tells connection .hasOutput (.noOutput node.kind)
  | anonymousSource {node : Node} {handle : String} (member : node ∈ graph.nodes)
    (source : node.id = connection.source) (named : connection.sourceHandle = some handle) :
    graph.Tells connection .anonymousSource (.undeclaredSourceHandle node.kind handle)

/-- With distinct ids, a rule has one reason at most. -/
theorem Tells.unique (distinct : graph.nodeIds.Nodup) {other : Rejection}
    (first : graph.Tells connection rule reason) (second : graph.Tells connection rule other) :
    reason = other := by
  have alone {node other : Node} (member : node ∈ graph.nodes) (present : other ∈ graph.nodes)
      (same : node.id = other.id) : node = other :=
    List.inj_on_of_nodup_map distinct member present same
  cases first with
  | knownSource => cases second; rfl
  | knownTarget => cases second; rfl
  | apart => cases second; rfl
  | declaredInput member target =>
    cases second with
    | declaredInput present same => rw [alone member present (target.trans same.symm)]
  | hasOutput member source =>
    cases second with
    | hasOutput present same => rw [alone member present (source.trans same.symm)]
  | anonymousSource member source named =>
    cases second with
    | anonymousSource present same again =>
      rw [alone member present (source.trans same.symm), Option.some.inj (named.symm.trans again)]

/-! ## One rule after the other -/

/-- The reason that a rule gives by itself. -/
def breach? (catalog : Catalog) (graph : Graph) (connection : Connection) :
    Rule → Option Rejection
  | .knownSource =>
    if (graph.node? connection.source).isSome then none
    else some (.unknownSource connection.source)
  | .knownTarget =>
    if (graph.node? connection.target).isSome then none
    else some (.unknownTarget connection.target)
  | .apart =>
    if connection.source = connection.target then some (.selfLoop connection.source) else none
  | .declaredInput =>
    (graph.node? connection.target).bind fun node => (catalog.handles? node.kind).bind fun handles =>
      if handles.declaresInput connection.targetHandle then none
      else some (.undeclaredTargetHandle node.kind connection.targetHandle)
  | .hasOutput =>
    (graph.node? connection.source).bind fun node => (catalog.handles? node.kind).bind fun handles =>
      if handles.hasOutput then none else some (.noOutput node.kind)
  | .anonymousSource =>
    (graph.node? connection.source).bind fun node => (catalog.handles? node.kind).bind fun _ =>
      connection.sourceHandle.map (.undeclaredSourceHandle node.kind)

/-- The reason for a refusal is what the first rule gives that gives any. -/
theorem rejection?_eq_findSome? (graph : Graph) (catalog : Catalog) (connection : Connection) :
    graph.rejection? catalog connection =
      Rule.inOrder.findSome? (graph.breach? catalog connection) := by
  unfold rejection? Rule.inOrder
  cases leaving : graph.node? connection.source with
  | none => simp [breach?, leaving]
  | some source =>
    cases entering : graph.node? connection.target with
    | none => simp [breach?, leaving, entering]
    | some target =>
      by_cases loop : connection.source = connection.target
      · simp [breach?, entering, loop]
      -- The rules about the source stand behind the one about the target.
      cases entered : catalog.handles? target.kind with
      | none =>
        cases left : catalog.handles? source.kind with
        | none => simp [breach?, leaving, entering, loop, entered, left]
        | some handles =>
          cases output : handles.hasOutput <;>
            simp [breach?, leaving, entering, loop, entered, left, output]
      | some inputs =>
        cases declared : inputs.declaresInput connection.targetHandle with
        | false => simp [breach?, leaving, entering, loop, entered, declared]
        | true =>
          cases left : catalog.handles? source.kind with
          | none => simp [breach?, leaving, entering, loop, entered, declared, left]
          | some handles =>
            cases output : handles.hasOutput <;>
              simp [breach?, leaving, entering, loop, entered, declared, left, output]

theorem node?_eq_some_iff (distinct : graph.nodeIds.Nodup) :
    graph.node? id = some node ↔ node ∈ graph.nodes ∧ node.id = id :=
  find?_key_eq_some_iff distinct

theorem breach?_eq_none_iff (distinct : graph.nodeIds.Nodup) :
    graph.breach? catalog connection rule = none ↔ graph.Keeps catalog connection rule := by
  cases rule with
  | knownSource => simp [breach?, Keeps, node?]
  | knownTarget => simp [breach?, Keeps, node?]
  | apart => simp [breach?, Keeps]
  | declaredInput =>
    simp [breach?, Keeps, Option.bind_eq_none_iff, node?_eq_some_iff distinct,
      Handles.declaresInput_iff]
  | hasOutput =>
    simp [breach?, Keeps, Option.bind_eq_none_iff, node?_eq_some_iff distinct]
  | anonymousSource =>
    simp [breach?, Keeps, Option.bind_eq_none_iff, node?_eq_some_iff distinct]

theorem tells_of_breach? (distinct : graph.nodeIds.Nodup)
    (broken : graph.breach? catalog connection rule = some reason) :
    graph.Tells connection rule reason := by
  cases rule with
  | knownSource =>
    simp only [breach?, Option.ite_none_left_eq_some, Option.some.injEq] at broken
    obtain ⟨-, rfl⟩ := broken
    exact .knownSource
  | knownTarget =>
    simp only [breach?, Option.ite_none_left_eq_some, Option.some.injEq] at broken
    obtain ⟨-, rfl⟩ := broken
    exact .knownTarget
  | apart =>
    simp only [breach?, Option.ite_none_right_eq_some, Option.some.injEq] at broken
    obtain ⟨-, rfl⟩ := broken
    exact .apart
  | declaredInput =>
    simp only [breach?, Option.bind_eq_some_iff, node?_eq_some_iff distinct,
      Option.ite_none_left_eq_some, Option.some.injEq] at broken
    obtain ⟨node, ⟨member, target⟩, handles, -, -, rfl⟩ := broken
    exact .declaredInput member target
  | hasOutput =>
    simp only [breach?, Option.bind_eq_some_iff, node?_eq_some_iff distinct,
      Option.ite_none_left_eq_some, Option.some.injEq] at broken
    obtain ⟨node, ⟨member, source⟩, handles, -, -, rfl⟩ := broken
    exact .hasOutput member source
  | anonymousSource =>
    simp only [breach?, Option.bind_eq_some_iff, node?_eq_some_iff distinct,
      Option.map_eq_some_iff] at broken
    obtain ⟨node, ⟨member, source⟩, handles, -, handle, named, rfl⟩ := broken
    exact .anonymousSource member source named

/-! ## Admission -/

theorem rejection?_eq_some_iff (distinct : graph.nodeIds.Nodup) :
    graph.rejection? catalog connection = some reason ↔
      ∃ rule, graph.BreaksFirst catalog connection rule ∧ graph.Tells connection rule reason := by
  rw [rejection?_eq_findSome?, List.findSome?_eq_some_iff]
  constructor
  · rintro ⟨before, rule, after, split, broken, kept⟩
    refine ⟨rule, ⟨before, after, split, ?_, ?_⟩, tells_of_breach? distinct broken⟩
    · rw [← breach?_eq_none_iff distinct, broken]
      exact Option.some_ne_none reason
    · exact fun earlier member => (breach?_eq_none_iff distinct).mp (kept earlier member)
  · rintro ⟨rule, ⟨before, after, split, breaks, kept⟩, tells⟩
    rw [← breach?_eq_none_iff distinct] at breaks
    obtain ⟨given, broken⟩ := Option.ne_none_iff_exists'.mp breaks
    rw [tells.unique distinct (tells_of_breach? distinct broken)]
    exact ⟨before, rule, after, split, broken, fun earlier member =>
      (breach?_eq_none_iff distinct).mpr (kept earlier member)⟩

theorem connect_eq_error_iff :
    graph.connect catalog connection = .error reason ↔
      graph.rejection? catalog connection = some reason := by
  unfold connect
  cases graph.rejection? catalog connection with
  | none => simp
  | some other => simp

/-- A connection is admitted by the rules, and refused by the first that it breaks. -/
structure Judges (catalog : Catalog) (graph : Graph) (connection : Connection) : Prop where
  admitted_iff : graph.rejection? catalog connection = none ↔
    ∀ rule, graph.Keeps catalog connection rule
  rejected_iff : ∀ reason, graph.rejection? catalog connection = some reason ↔
    ∃ rule, graph.BreaksFirst catalog connection rule ∧ graph.Tells connection rule reason
  connected_iff : (∃ made, graph.connect catalog connection = .ok made) ↔
    graph.rejection? catalog connection = none
  refused_iff : ∀ reason, graph.connect catalog connection = .error reason ↔
    graph.rejection? catalog connection = some reason

theorem judges_connection (distinct : graph.nodeIds.Nodup) (catalog : Catalog)
    (connection : Connection) : graph.Judges catalog connection := by
  refine ⟨?_, fun reason => rejection?_eq_some_iff distinct, ?_, fun reason => connect_eq_error_iff⟩
  · rw [rejection?_eq_findSome?, List.findSome?_eq_none_iff]
    constructor
    · exact fun kept rule => (breach?_eq_none_iff distinct).mp (kept rule rule.mem_inOrder)
    · exact fun kept rule _ => (breach?_eq_none_iff distinct).mpr (kept rule)
  · constructor
    · rintro ⟨⟨edge, next⟩, made⟩
      exact (connect_eq_ok_iff.mp made).1
    · exact fun admitted => ⟨_, connect_eq_ok_iff.mpr ⟨admitted, rfl, rfl⟩⟩

/-- The output of a strategy fed into a comparison: the rules of inputs, outputs and handles are
all broken, and the input is told. -/
theorem judges_connection_output :
    let node (id kind : String) : Node := ⟨id, kind, ⟨0.0, 0.0⟩, kind, .empty⟩
    let graph : Graph := ⟨[node "end" "signal_output", node "below" "less_than"], []⟩
    let connection : Connection := ⟨"end", some "value", "below", none⟩
    graph.nodeIds.Nodup ∧
      graph.breach? .builtIn connection .hasOutput = some (.noOutput "signal_output") ∧
      graph.breach? .builtIn connection .anonymousSource =
        some (.undeclaredSourceHandle "signal_output" "value") ∧
      graph.rejection? .builtIn connection = some (.undeclaredTargetHandle "less_than" none) ∧
      graph.Judges .builtIn connection := by
  intro node graph connection
  have distinct : graph.nodeIds.Nodup := by decide +kernel
  exact ⟨distinct, by decide +kernel, by decide +kernel, by decide +kernel,
    judges_connection distinct .builtIn connection⟩

end Graph

end SignalGraph
