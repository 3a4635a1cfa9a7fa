import SignalGraph.Proofs.Catalog.Conforming
import Mathlib.Data.List.Induction

/-! Catalogs as entries laid over the built-in kinds.

The last entry of a kind defines it, in the place that the kind has had since its first definition.
So what a catalog has is said by the entries alone, without its slots.
-/

set_option autoImplicit false

namespace SignalGraph

/-- What the last entry of a kind defines, or else the kind as it is built in. -/
def overlaid? (entries : List CatalogEntry) (kind : String) : Option Definition :=
  ((entries.reverse.find? fun entry => entry.kind = kind).map CatalogEntry.definition).or
    (BuiltIn.definitions.find? fun definition => definition.kind = kind)

/-- The kinds that are not built in, in the order in which they first appear. -/
def newKinds (entries : List CatalogEntry) : List String :=
  (entries.map (·.kind)).eraseDups.filter (· ∉ BuiltIn.definitions.map (·.kind))

variable {entries : List CatalogEntry} {kind : String}

theorem overlaid?_concat (entries : List CatalogEntry) (entry : CatalogEntry) (kind : String) :
    overlaid? (entries ++ [entry]) kind =
      if kind = entry.kind then some entry.definition else overlaid? entries kind := by
  rw [overlaid?, List.reverse_concat, List.find?_cons]
  by_cases same : kind = entry.kind
  · simp [same]
  · simp [same, overlaid?, Ne.symm same]

/-- An item that is there already does not appear again. -/
theorem filter_eraseDups_concat (known items : List String) (item : String) :
    (items ++ [item]).eraseDups.filter (· ∉ known) =
      if item ∈ known ++ items.eraseDups.filter (· ∉ known) then
        items.eraseDups.filter (· ∉ known)
      else items.eraseDups.filter (· ∉ known) ++ [item] := by
  rw [List.eraseDups_append, List.filter_append]
  by_cases old : item ∈ known <;> by_cases again : item ∈ items <;>
    simp [List.removeAll, List.eraseDups_cons, old, again]

theorem newKinds_concat (entries : List CatalogEntry) (entry : CatalogEntry) :
    newKinds (entries ++ [entry]) =
      if entry.kind ∈ BuiltIn.definitions.map (·.kind) ++ newKinds entries then newKinds entries
      else newKinds entries ++ [entry.kind] := by
  rw [newKinds, List.map_append, List.map_singleton, filter_eraseDups_concat]
  rfl

/-- No entry has two parameters of one id. -/
theorem CatalogEntry.ids_nodup (entry : CatalogEntry) :
    (entry.definition.parameters.map (·.id)).Nodup := by
  have keys : entry.definition.parameters.map (·.id) = entry.parameters.entries.map Prod.fst := by
    simp [definition, Function.comp_def]
  rw [keys]
  exact nodup_of_ascending (List.pairwise_map.mpr entry.parameters.ascending)

theorem ids_nodup_of_overlaid? {definition : Definition}
    (found : overlaid? entries kind = some definition) :
    (definition.parameters.map (·.id)).Nodup := by
  rcases Option.or_eq_some_iff.mp found with laid | ⟨-, kept⟩
  · obtain ⟨entry, -, rfl⟩ := Option.map_eq_some_iff.mp laid
    exact entry.ids_nodup
  · exact (BuiltIn.sound (List.mem_of_find?_eq_some kept)).ids_nodup

namespace Catalog

theorem ofEntries_concat (entries : List CatalogEntry) (entry : CatalogEntry) :
    ofEntries (entries ++ [entry]) = (ofEntries entries).insert entry.definition :=
  List.foldl_concat ..

theorem definition?_ofEntries (entries : List CatalogEntry) (kind : String) :
    (ofEntries entries).definition? kind = overlaid? entries kind := by
  induction entries using List.reverseRecOn with
  | nil =>
    apply Option.ext
    intro definition
    rw [ofEntries, List.foldl_nil, overlaid?, List.reverse_nil, List.find?_nil, Option.map_none,
      Option.none_or, find?_key_eq_some_iff BuiltIn.kinds_nodup, ← builtIn_definitions,
      builtIn_inStep.definition?_eq_some_iff]
  | append_singleton entries entry ih =>
    rw [ofEntries_concat, (ofEntries_regular entries).inStep.definition?_insert, ih,
      overlaid?_concat]
    rfl

theorem kinds_ofEntries (entries : List CatalogEntry) :
    (ofEntries entries).kinds = BuiltIn.definitions.map (·.kind) ++ newKinds entries := by
  induction entries using List.reverseRecOn with
  | nil =>
    rw [ofEntries, List.foldl_nil, kinds, builtIn_definitions]
    simp [newKinds]
  | append_singleton entries entry ih =>
    have same : entry.definition.kind = entry.kind := rfl
    rw [ofEntries_concat, (ofEntries_regular entries).inStep.kinds_insert, ih, newKinds_concat, same]
    split
    · rfl
    · rw [List.append_assoc]

/-- The catalog has what the entries define, and what is built in where they define nothing. -/
structure Overlays (entries : List CatalogEntry) (catalog : Catalog) : Prop where
  kinds_nodup : catalog.kinds.Nodup
  kinds_eq : catalog.kinds = BuiltIn.definitions.map (·.kind) ++ newKinds entries
  definition?_eq : ∀ kind, catalog.definition? kind = overlaid? entries kind
  contains_eq : ∀ kind, catalog.contains kind = (overlaid? entries kind).isSome
  handles?_eq : ∀ kind, catalog.handles? kind = (overlaid? entries kind).map (·.handles)
  category?_eq : ∀ kind, catalog.category? kind = (overlaid? entries kind).map (·.category)
  displayName_eq : ∀ kind,
    catalog.displayName kind = ((overlaid? entries kind).map (·.name)).getD kind
  parameter?_eq : ∀ kind id,
    catalog.parameter? kind id = (overlaid? entries kind).bind (·.parameter? id)
  /-- The defaults of a kind are those that its parameters declare. -/
  get?_defaults : ∀ kind id,
    (catalog.defaults kind).get? id = (catalog.parameter? kind id).bind (·.default)
  /-- A slot is one of a definition, and of no other kind. -/
  slot : ∀ kind slot, catalog.slots.lookup kind = some slot →
    ∃ bound : slot < catalog.definitions.length, catalog.definitions[slot].kind = kind

theorem ofEntries_overlays (entries : List CatalogEntry) :
    (ofEntries entries).Overlays entries := by
  have inStep := (ofEntries_regular entries).inStep
  have lookup := definition?_ofEntries entries
  refine ⟨inStep.kinds_nodup, kinds_ofEntries entries, lookup, ?_, ?_, ?_, ?_, ?_, ?_, ?_⟩
  · intro kind
    rw [inStep.contains_eq, lookup]
  · intro kind
    rw [handles?, lookup]
  · intro kind
    rw [category?, lookup]
  · intro kind
    rw [displayName, lookup]
  · intro kind id
    rw [parameter?, lookup]
  · intro kind id
    rw [defaults, parameter?, lookup]
    cases found : overlaid? entries kind with
    | none => rfl
    | some definition => exact definition.get?_defaults_eq (ids_nodup_of_overlaid? found) id
  · intro kind slot listed
    obtain ⟨definition, here, named⟩ := inStep.stands listed
    obtain ⟨bound, same⟩ := List.getElem?_eq_some_iff.mp here
    exact ⟨bound, same ▸ named⟩

/-- A built-in kind keeps its place, and the later of two entries counts. -/
example :
    let entry (kind name : String) : CatalogEntry :=
      { kind, name, description := none, category := none, parameters := .empty }
    let catalog := ofEntries [entry "trend" "Trend", entry "rsi" "Strength", entry "trend" "Trends"]
    catalog.displayName "trend" = "Trends" ∧ catalog.kinds.head? = some "rsi" ∧
      catalog.kinds.drop BuiltIn.definitions.length = ["trend"] := by
  decide +kernel

end Catalog

end SignalGraph
