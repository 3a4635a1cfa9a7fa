import SignalGraph.Proofs.Catalog.BuiltIn
import SignalGraph.Proofs.KeyMap

/-! The layouts of a catalog, whatever entries are laid over the built-in kinds.

The layout of a kind and its category come from tables of their own. They agree because a kind that
is known by name stays in its category: so a kind without an output is a terminal one, and the other
way round.
-/

set_option autoImplicit false

namespace SignalGraph

/-! ## Layouts -/

namespace Handles

theorem inputs_ofKind_nodup (kind : String) (category : Category) :
    ((ofKind kind category).inputs.map (·.id)).Nodup := by
  unfold ofKind
  split
  case h_14 => cases category <;> decide
  all_goals decide

/-- Only the connectives of many conditions take several edges at once. -/
theorem multiple_ofKind {kind : String} {category : Category} {input : InputHandle}
    (listed : input ∈ (ofKind kind category).inputs) (multiple : input.multiple = true) :
    kind = "and" ∨ kind = "or" := by
  have single : ∀ handles : Handles, (∀ input ∈ handles.inputs, input.multiple = false) →
      input ∉ handles.inputs := by
    intro handles single member
    rw [single input member] at multiple
    exact Bool.noConfusion multiple
  -- Every layout but those of the two connectives has single inputs, so that it lists no other.
  unfold ofKind at listed
  split at listed
  case h_6 => exact .inl rfl
  case h_7 => exact .inr rfl
  case h_14 => exact absurd listed (single _ (by cases category <;> decide))
  all_goals exact absurd listed (single _ (by decide))

/-- A kind that stands in its own category has no output just when that is the one of outputs. -/
theorem hasOutput_ofKind {kind : String} {category : Category}
    (own : ∀ known, BuiltIn.category? kind = some known → category = known) :
    (ofKind kind category).hasOutput = false ↔ category = .output := by
  unfold ofKind
  split
  case h_14 => cases category <;> decide
  -- A kind with a layout of its own is known, and with it the category.
  all_goals
    rw [own _ rfl]
    decide

end Handles

/-- The definition stands in the category its kind is known for, and has the layout for both. -/
structure Definition.Regular (definition : Definition) : Prop where
  category : ∀ known, BuiltIn.category? definition.kind = some known → definition.category = known
  handles : definition.handles = .ofKind definition.kind definition.category

theorem Definition.Regular.hasOutput_iff {definition : Definition} (regular : definition.Regular) :
    definition.handles.hasOutput = false ↔ definition.category = .output := by
  rw [regular.handles]
  exact Handles.hasOutput_ofKind regular.category

theorem BuiltIn.regular {definition : Definition} (member : definition ∈ definitions) :
    definition.Regular where
  category known found := by
    rw [category?, find?_key_of_mem kinds_nodup member] at found
    exact Option.some.inj found
  handles := handles_eq member

/-- Whatever category an entry names, a kind that is known stays in its own. -/
theorem CatalogEntry.regular_definition (entry : CatalogEntry) : entry.definition.Regular where
  category known found := by
    have lookup : BuiltIn.category? entry.kind = some known := found
    simp only [definition, lookup, Option.getD_some]
  handles := rfl

/-! ## Catalogs -/

namespace Catalog

variable {catalog : Catalog} {definition added : Definition} {kind : String}

/-- One definition for a kind, each of them regular, and one for the output among them. -/
structure Regular (catalog : Catalog) : Prop where
  inStep : catalog.InStep
  definitions : ∀ definition ∈ catalog.definitions, definition.Regular
  output : BuiltIn.signalOutput ∈ catalog.kinds

theorem Regular.insert (regular : catalog.Regular) (added : Definition.Regular definition) :
    (catalog.insert definition).Regular where
  inStep := regular.inStep.insert definition
  definitions other member := by
    rcases mem_of_mem_insert member with rfl | old
    · exact added
    · exact regular.definitions other old
  output := by
    rw [regular.inStep.kinds_insert]
    split
    · exact regular.output
    · exact List.mem_append_left _ regular.output

theorem builtIn_regular : builtIn.Regular where
  inStep := builtIn_inStep
  definitions definition member := BuiltIn.regular (mem_builtIn member)
  output := by
    rw [kinds, builtIn_definitions]
    decide +kernel

theorem ofEntries_regular (entries : List CatalogEntry) : (ofEntries entries).Regular := by
  refine List.foldlRecOn entries _ builtIn_regular fun catalog regular entry _ => ?_
  exact regular.insert entry.regular_definition

/-! ## Terminal kinds -/

namespace Regular

theorem isTerminal_iff (regular : catalog.Regular) (member : definition ∈ catalog.definitions) :
    catalog.isTerminal definition.kind = true ↔ definition.category = .output := by
  have found := regular.inStep.definition?_of_mem member
  have output : definition.kind = BuiltIn.signalOutput → definition.category = .output :=
    fun named => (regular.definitions definition member).category .output (named ▸ rfl)
  simpa [isTerminal, category?, found] using output

/-- A terminal kind is there, and has no output. -/
theorem handles?_of_isTerminal (regular : catalog.Regular)
    (terminal : catalog.isTerminal kind = true) :
    ∃ handles, catalog.handles? kind = some handles ∧ handles.hasOutput = false := by
  have known : kind ∈ catalog.kinds := by
    simp only [isTerminal, Bool.or_eq_true, decide_eq_true_eq] at terminal
    rcases terminal with rfl | output
    · exact regular.output
    · obtain ⟨definition, found, -⟩ := Option.map_eq_some_iff.mp output
      exact List.mem_map.mpr ⟨definition, regular.inStep.definition?_eq_some_iff.mp found⟩
  obtain ⟨definition, member, rfl⟩ := List.mem_map.mp known
  refine ⟨definition.handles, ?_, ?_⟩
  · rw [handles?, regular.inStep.definition?_of_mem member, Option.map_some]
  · rw [(regular.definitions definition member).hasOutput_iff, ← regular.isTerminal_iff member]
    exact terminal

end Regular

/-- What a palette and a canvas rely on in the layouts of a catalog. -/
structure LaidOut (catalog : Catalog) (definition : Definition) : Prop where
  handles_eq : definition.handles = .ofKind definition.kind definition.category
  inputs_nodup : (definition.handles.inputs.map (·.id)).Nodup
  multiple : ∀ input ∈ definition.handles.inputs, input.multiple = true →
    definition.kind = "and" ∨ definition.kind = "or"
  hasOutput_iff : definition.handles.hasOutput = false ↔
    catalog.isTerminal definition.kind = true

theorem Regular.laidOut (regular : catalog.Regular) (member : definition ∈ catalog.definitions) :
    catalog.LaidOut definition := by
  have own := regular.definitions definition member
  refine ⟨own.handles, ?_, ?_, own.hasOutput_iff.trans (regular.isTerminal_iff member).symm⟩
  · rw [own.handles]
    exact Handles.inputs_ofKind_nodup _ _
  · rw [own.handles]
    exact fun input listed multiple => Handles.multiple_ofKind listed multiple

end Catalog

end SignalGraph
