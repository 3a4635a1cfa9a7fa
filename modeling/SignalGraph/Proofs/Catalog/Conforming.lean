import SignalGraph.Proofs.Catalog.Layout
import SignalGraph.Proofs.Graph.Edited
import SignalGraph.Proofs.Json.Range
import SignalGraph.Proofs.Json.Record

/-! Values of the type that a parameter declares.

Whatever is entered for a parameter, what it gets is of its type, as long as the value that it falls
back to is. The built-in kinds see to that: their nodes have such values for all their parameters.
-/

set_option autoImplicit false

namespace SignalGraph

/-! ## One parameter -/

namespace Parameter

variable {parameter : Parameter}

/-- The value is of the declared type: a number is finite, and a choice is one of the options. -/
def conforms (parameter : Parameter) (value : Json) : Bool :=
  match parameter.type, value.tree with
  | .number, .integer _ => true
  | .number, .float x => decide x.IsFinite
  | .boolean, .bool _ => true
  | .select, .string chosen => parameter.options.any (chosen ∈ ·)
  | .text, .string _ => true
  | _, _ => false

theorem tree_numberValue {x : Binary64} (finite : x.IsFinite) :
    (∃ n, (numberValue x).tree = .integer n) ∨ (numberValue x).tree = .float x := by
  have asFloat : (Json.float x).tree = .float x := Json.tree_float finite
  unfold numberValue
  split
  case h_2 => exact .inr asFloat
  case h_1 n whole =>
    split
    case isFalse => exact .inr asFloat
    case isTrue small => exact .inl ⟨n, Json.tree_integer (inIntegerRange_of_lt small)⟩

/-- Without options, a select would accept any text. -/
theorem conforms_of_accept? (listed : parameter.type = .select → parameter.options.isSome = true)
    {value taken : Json} (accepted : parameter.accept? value = some taken) :
    parameter.conforms taken = true := by
  unfold accept? at accepted
  unfold conforms
  cases type : parameter.type with
  | number =>
    simp only [type] at accepted
    obtain ⟨x, entered, rfl⟩ := Option.map_eq_some_iff.mp accepted
    have finite : x.IsFinite := by simpa using (Option.filter_eq_some_iff.mp entered).2
    rcases tree_numberValue finite with ⟨n, whole⟩ | fraction
    · rw [whole]
    · simp [fraction, finite]
  | boolean =>
    simp only [type] at accepted
    obtain ⟨choice, -, rfl⟩ := Option.map_eq_some_iff.mp accepted
    rfl
  | select =>
    obtain ⟨options, declared⟩ := Option.isSome_iff_exists.mp (listed type)
    simp only [type, declared] at accepted
    split at accepted
    case h_1 chosen offered _ same =>
      cases same
      split at accepted
      case isTrue among =>
        cases accepted
        simpa [declared, Json.string] using among
      case isFalse => cases accepted
    case h_2 none => cases none
    case h_3 => cases accepted
  | text =>
    simp only [type] at accepted
    split at accepted
    case h_2 => cases accepted
    all_goals
      cases accepted
      rfl

/-- No parameter takes `null` for a value. -/
theorem coerce_null (parameter : Parameter) : parameter.coerce .null = parameter.fallback := by
  cases type : parameter.type <;>
    simp [coerce, accept?, type, Json.null, enteredNumber?, enteredBoolean?, Tree.number?]

/-- The value to fall back to is there and of the declared type. -/
def isSound (parameter : Parameter) : Bool := parameter.default.any parameter.conforms

theorem conforms_coerce (sound : parameter.isSound = true) (value : Json) :
    parameter.conforms (parameter.coerce value) = true := by
  obtain ⟨default, declared, conforms⟩ := (Option.any_eq_true _ _).mp sound
  -- The value to fall back to is an option of a select, so that it has some.
  have listed : parameter.type = .select → parameter.options.isSome = true := by
    intro type
    cases options : parameter.options with
    | some => rfl
    | none =>
      cases tree : default.tree <;> simp [Parameter.conforms, type, options, tree] at conforms
  unfold coerce
  cases accepted : parameter.accept? value with
  | some taken => exact conforms_of_accept? listed accepted
  | none => simpa [fallback, declared] using conforms

end Parameter

/-! ## Kinds -/

/-- No two parameters share an id, and each has a value to fall back to. -/
structure Definition.Sound (definition : Definition) : Prop where
  ids_nodup : (definition.parameters.map (·.id)).Nodup
  fallbacks : ∀ parameter ∈ definition.parameters, parameter.isSound = true

theorem BuiltIn.sound {definition : Definition} (member : definition ∈ definitions) :
    definition.Sound := by
  have all : ∀ definition ∈ definitions, (definition.parameters.map (·.id)).Nodup ∧
      ∀ parameter ∈ definition.parameters, parameter.isSound = true := by decide +kernel
  exact ⟨(all definition member).1, (all definition member).2⟩

namespace Definition

variable {definition : Definition} {parameter : Parameter}

theorem parameter?_of_mem (distinct : (definition.parameters.map (·.id)).Nodup)
    (member : parameter ∈ definition.parameters) :
    definition.parameter? parameter.id = some parameter :=
  find?_key_of_mem distinct member

theorem get?_defaults (distinct : (definition.parameters.map (·.id)).Nodup)
    (member : parameter ∈ definition.parameters) {default : Json}
    (declared : parameter.default = some default) :
    definition.defaults.get? parameter.id = some default := by
  have keys : ((definition.parameters.filterMap fun parameter =>
      parameter.default.map (parameter.id, ·)).map Prod.fst).Nodup := by
    refine List.pairwise_map.mpr (List.pairwise_filterMap.mpr ?_)
    refine (List.pairwise_map.mp distinct).imp ?_
    intro first second different entry found other foundOther
    obtain ⟨-, -, rfl⟩ := Option.map_eq_some_iff.mp found
    obtain ⟨-, -, rfl⟩ := Option.map_eq_some_iff.mp foundOther
    exact different
  have listed : (parameter.id, default) ∈ definition.parameters.filterMap fun parameter =>
      parameter.default.map (parameter.id, ·) :=
    List.mem_filterMap.mpr ⟨parameter, member, by rw [declared, Option.map_some]⟩
  exact KeyMap.get?_of_mem ((KeyMap.ofList_perm keys).mem_iff.mpr listed)

/-- The default under an id is the one that the parameter of that id declares. -/
theorem get?_defaults_eq (distinct : (definition.parameters.map (·.id)).Nodup) (id : String) :
    definition.defaults.get? id = (definition.parameter? id).bind (·.default) := by
  apply Option.ext
  intro default
  constructor
  · intro found
    have listed := KeyMap.mem_of_mem_ofList ((KeyMap.mem_entries_iff _ (id, default)).mpr found)
    obtain ⟨parameter, member, entry⟩ := List.mem_filterMap.mp listed
    obtain ⟨_, declared, same⟩ := Option.map_eq_some_iff.mp entry
    cases same
    rw [parameter?_of_mem distinct member, Option.bind_some, declared]
  · intro found
    obtain ⟨parameter, lookup, declared⟩ := Option.bind_eq_some_iff.mp found
    obtain ⟨member, rfl⟩ := (find?_key_eq_some_iff distinct).mp lookup
    exact get?_defaults distinct member declared

end Definition

/-! ## Nodes -/

/-- Entered values are found coerced, and all others as they were. -/
theorem Node.get?_enter (node : Node) (catalog : Catalog) (values : KeyMap Json) (id : String) :
    (node.enter catalog values).get? id =
      ((values.get? id).map (catalog.entered node.kind id)).or (node.parameters.get? id) := by
  refine (KeyMap.get?_insertAll node.parameters ?ordered id).trans ?_
  case ordered => exact List.pairwise_map.mpr values.ascending
  rw [lookup_map_value]
  rfl

/-- The node has a value that fits for every parameter that its kind declares. -/
def Node.Fills (catalog : Catalog) (fits : Parameter → Json → Prop) (node : Node) : Prop :=
  ∀ definition, catalog.definition? node.kind = some definition →
    ∀ parameter ∈ definition.parameters, ∃ value,
      node.parameters.get? parameter.id = some value ∧ fits parameter value

/-- The node has a value of the declared type for every parameter that its kind declares. -/
def Node.Conforms (catalog : Catalog) (node : Node) : Prop :=
  ∀ definition, catalog.definition? node.kind = some definition →
    ∀ parameter ∈ definition.parameters, ∃ value,
      node.parameters.get? parameter.id = some value ∧ parameter.conforms value = true

namespace Catalog

/-- All definitions of the catalog are sound. -/
def Sound (catalog : Catalog) : Prop := ∀ definition ∈ catalog.definitions, definition.Sound

theorem builtIn_sound : builtIn.Sound := fun _ member => BuiltIn.sound (mem_builtIn member)

/-- What is entered for a parameter that the kind declares is coerced. -/
theorem Sound.entered_eq {catalog : Catalog} (sound : catalog.Sound) {kind : String}
    {definition : Definition} (resolved : catalog.definition? kind = some definition)
    {parameter : Parameter} (member : parameter ∈ definition.parameters) (value : Json) :
    catalog.entered kind parameter.id value = parameter.coerce value := by
  have distinct := (sound definition (mem_of_definition? resolved)).ids_nodup
  have declared : catalog.parameter? kind parameter.id = some parameter := by
    rw [Catalog.parameter?, resolved]
    exact Definition.parameter?_of_mem distinct member
  simp only [Catalog.entered, declared]

section Fills

variable {catalog : Catalog} {fits : Parameter → Json → Prop} (sound : catalog.Sound)
  (coerced : ∀ parameter : Parameter, parameter.isSound = true → ∀ value,
    fits parameter (parameter.coerce value))
include sound coerced

theorem Sound.fills_newNode (id kind : String) (position : Position) :
    (Graph.newNode catalog id kind position).Fills catalog fits := by
  intro definition found parameter member
  have rules := sound definition (mem_of_definition? found)
  have fallback := rules.fallbacks parameter member
  obtain ⟨default, declared, -⟩ := (Option.any_eq_true _ _).mp fallback
  have defaults : (Graph.newNode catalog id kind position).parameters = definition.defaults := by
    have resolved : catalog.definition? kind = some definition := found
    simp [Graph.newNode, Catalog.defaults, resolved]
  rw [defaults]
  refine ⟨default, Definition.get?_defaults rules.ids_nodup member declared, ?_⟩
  have entered := coerced parameter fallback .null
  rw [Parameter.coerce_null, Parameter.fallback, declared] at entered
  exact entered

/-- Entered values are coerced where the kind declares their parameter, and others stay out of the
way of those that it declares. -/
theorem Sound.fills_withParameters {node : Node} (fills : node.Fills catalog fits)
    (values : KeyMap Json) : (node.withParameters catalog values).Fills catalog fits := by
  intro definition resolved parameter member
  have rules := sound definition (mem_of_definition? resolved)
  have entered : (node.withParameters catalog values).parameters.get? parameter.id = _ :=
    node.get?_enter catalog values parameter.id
  rw [entered]
  cases values.get? parameter.id with
  | none => exact fills definition resolved parameter member
  | some value =>
    have found : catalog.definition? node.kind = some definition := resolved
    refine ⟨_, rfl, ?_⟩
    rw [sound.entered_eq found member]
    exact coerced parameter (rules.fallbacks parameter member) value

/-- What fits of all coerced values, fits of the values of all nodes. -/
theorem Sound.fills_maintained (Made : String → Prop) (offset : Binary64) :
    Node.Maintained Made catalog offset (Node.Fills catalog fits) where
  added kind position _ := sound.fills_newNode coerced _ kind position
  copied _ fills := fills
  entered values fills := sound.fills_withParameters coerced fills values
  moved _ fills := fills
  renamed _ fills := fills

end Fills

theorem Sound.maintained {catalog : Catalog} (sound : catalog.Sound) (Made : String → Prop)
    (offset : Binary64) : Node.Maintained Made catalog offset (Node.Conforms catalog) :=
  sound.fills_maintained (fun _ => Parameter.conforms_coerce) Made offset

end Catalog

end SignalGraph
