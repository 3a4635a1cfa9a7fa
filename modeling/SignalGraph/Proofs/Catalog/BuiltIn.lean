import SignalGraph.Proofs.Catalog.Slots

/-! What holds of every built-in kind: its handles are those laid out for kind and category, none
of them has an empty name, and the kind itself has a name.
-/

set_option autoImplicit false

namespace SignalGraph

theorem Handles.declaresInput_ofCategory_empty (category : Category) :
    (ofCategory category).declaresInput (some "") = false := by
  cases category <;> rfl

/-- No layout has an input with an empty name. -/
theorem Handles.declaresInput_ofKind_empty (kind : String) (category : Category) :
    (ofKind kind category).declaresInput (some "") = false := by
  unfold ofKind
  split
  case h_14 => exact declaresInput_ofCategory_empty category
  all_goals rfl

theorem BuiltIn.handles_eq {definition : Definition} (member : definition ∈ definitions) :
    definition.handles = .ofKind definition.kind definition.category := by
  have laidOut : definitions.map (·.handles) =
      definitions.map fun definition => Handles.ofKind definition.kind definition.category := rfl
  exact List.map_inj_left.mp laidOut definition member

theorem BuiltIn.name_ne_empty {definition : Definition} (member : definition ∈ definitions) :
    definition.name ≠ "" := by
  have named : ∀ name ∈ definitions.map (·.name), name ≠ "" := by decide
  exact named _ (List.mem_map_of_mem member)

theorem BuiltIn.kinds_nodup : (definitions.map (·.kind)).Nodup := by decide +kernel

namespace Catalog

/-- No kind is defined twice, so that every definition keeps its place. -/
theorem builtIn_definitions : builtIn.definitions = BuiltIn.definitions :=
  InStep.empty.definitions_foldl_insert BuiltIn.kinds_nodup

theorem mem_builtIn {definition : Definition} (member : definition ∈ builtIn.definitions) :
    definition ∈ BuiltIn.definitions :=
  builtIn_definitions ▸ member

/-- Every kind but the empty one is shown under a name, and no input has an empty name. -/
structure Named (catalog : Catalog) : Prop where
  displayName_ne_empty : ∀ {kind : String}, kind ≠ "" → catalog.displayName kind ≠ ""
  declaresInput_empty : ∀ {kind : String} {handles : Handles},
    catalog.handles? kind = some handles → handles.declaresInput (some "") = false

theorem builtIn_named : builtIn.Named where
  displayName_ne_empty {kind} named := by
    unfold displayName
    cases found : builtIn.definition? kind with
    | none => exact named
    | some definition => exact BuiltIn.name_ne_empty (mem_builtIn (mem_of_definition? found))
  declaresInput_empty {kind handles} found := by
    obtain ⟨definition, resolved, rfl⟩ := Option.map_eq_some_iff.mp found
    rw [BuiltIn.handles_eq (mem_builtIn (mem_of_definition? resolved))]
    exact Handles.declaresInput_ofKind_empty _ _

end Catalog

end SignalGraph
