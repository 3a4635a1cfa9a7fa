import SignalGraph.Catalog
import SignalGraph.Proofs.KeyMap

/-! The slots of a catalog in step with its definitions.

A kind has a slot just when a definition of that kind stands there. One iff for all slots says at
once that no slot is stale, that none is missing and that no kind has two, and it is what every
insertion keeps. Look-ups by slot are then look-ups by kind.
-/

set_option autoImplicit false

namespace SignalGraph.Catalog

variable {catalog : Catalog} {definition added : Definition} {kind : String} {slot : Nat}

def kinds (catalog : Catalog) : List String := catalog.definitions.map (·.kind)

/-- The slot of a kind is where its definition stands. -/
def InStep (catalog : Catalog) : Prop :=
  ∀ kind slot, catalog.slots.lookup kind = some slot ↔ catalog.kinds[slot]? = some kind

theorem kinds_getElem? (catalog : Catalog) (slot : Nat) :
    catalog.kinds[slot]? = (catalog.definitions[slot]?).map (·.kind) :=
  List.getElem?_map ..

theorem mem_of_definition? (found : catalog.definition? kind = some definition) :
    definition ∈ catalog.definitions := by
  obtain ⟨slot, -, stands⟩ := Option.bind_eq_some_iff.mp found
  exact List.mem_of_getElem? stands

/-- Only the added definition is new. -/
theorem mem_of_mem_insert (member : definition ∈ (catalog.insert added).definitions) :
    definition = added ∨ definition ∈ catalog.definitions := by
  unfold insert at member
  split at member
  · exact (List.mem_or_eq_of_mem_set member).symm
  · exact (List.mem_append.mp member).symm.imp_left List.mem_singleton.mp

namespace InStep

theorem empty : empty.InStep := by
  intro kind slot
  constructor <;> intro found <;> cases found

theorem contains_iff (inStep : catalog.InStep) :
    catalog.contains kind = true ↔ kind ∈ catalog.kinds := by
  rw [contains, Option.isSome_iff_exists, List.mem_iff_getElem?]
  exact exists_congr fun slot => inStep kind slot

theorem lookup_eq_none_iff (inStep : catalog.InStep) :
    catalog.slots.lookup kind = none ↔ kind ∉ catalog.kinds := by
  rw [← inStep.contains_iff, contains, Bool.not_eq_true, Option.isSome_eq_false_iff,
    Option.isNone_iff_eq_none]

theorem kinds_nodup (inStep : catalog.InStep) : catalog.kinds.Nodup := by
  rw [List.nodup_iff_injective_getElem]
  rintro ⟨first, firstBound⟩ ⟨second, secondBound⟩ same
  -- Equal kinds have one slot.
  have firstSlot := (inStep _ first).mpr (List.getElem?_eq_getElem firstBound)
  have secondSlot := (inStep _ second).mpr (List.getElem?_eq_getElem secondBound)
  simp only at same
  rw [same, secondSlot] at firstSlot
  exact Fin.ext (Option.some.inj firstSlot).symm

/-- A look-up never leaves the definitions, and finds one of the kind that was asked for. -/
theorem stands (inStep : catalog.InStep) (found : catalog.slots.lookup kind = some slot) :
    ∃ definition, catalog.definitions[slot]? = some definition ∧ definition.kind = kind := by
  have named := (inStep kind slot).mp found
  rw [kinds_getElem?] at named
  exact Option.map_eq_some_iff.mp named

theorem definition?_eq_some_iff (inStep : catalog.InStep) :
    catalog.definition? kind = some definition ↔
      definition ∈ catalog.definitions ∧ definition.kind = kind := by
  constructor
  · intro found
    refine ⟨mem_of_definition? found, ?_⟩
    obtain ⟨slot, listed, here⟩ := Option.bind_eq_some_iff.mp found
    obtain ⟨other, there, named⟩ := inStep.stands listed
    rw [here, Option.some.injEq] at there
    exact there ▸ named
  · rintro ⟨member, rfl⟩
    obtain ⟨slot, here⟩ := List.getElem?_of_mem member
    have listed : catalog.slots.lookup definition.kind = some slot := by
      rw [inStep, kinds_getElem?, here, Option.map_some]
    rw [definition?, listed]
    exact here

theorem definition?_of_mem (inStep : catalog.InStep) (member : definition ∈ catalog.definitions) :
    catalog.definition? definition.kind = some definition :=
  inStep.definition?_eq_some_iff.mpr ⟨member, rfl⟩

/-- To have a kind is to have a definition of it. -/
theorem contains_eq (inStep : catalog.InStep) (kind : String) :
    catalog.contains kind = (catalog.definition? kind).isSome := by
  cases listed : catalog.slots.lookup kind with
  | none => simp [contains, definition?, listed]
  | some slot =>
    obtain ⟨definition, here, -⟩ := inStep.stands listed
    simp [contains, definition?, listed, here]

/-- A new kind comes last, and a known one stays where it is. -/
theorem kinds_insert (inStep : catalog.InStep) (added : Definition) :
    (catalog.insert added).kinds =
      if added.kind ∈ catalog.kinds then catalog.kinds else catalog.kinds ++ [added.kind] := by
  unfold insert
  cases listed : catalog.slots.lookup added.kind with
  | none =>
    rw [if_neg (inStep.lookup_eq_none_iff.mp listed)]
    simp [kinds]
  | some slot =>
    have here := (inStep added.kind slot).mp listed
    obtain ⟨bound, named⟩ := List.getElem?_eq_some_iff.mp here
    rw [if_pos (List.mem_of_getElem? here)]
    simp only [kinds, List.map_set, ← named, List.set_getElem_self]

protected theorem insert (inStep : catalog.InStep) (added : Definition) :
    (catalog.insert added).InStep := by
  intro kind slot
  rw [inStep.kinds_insert added]
  unfold Catalog.insert
  cases listed : catalog.slots.lookup added.kind with
  | some old =>
    have known := List.mem_of_getElem? ((inStep added.kind old).mp listed)
    rw [if_pos known]
    exact inStep kind slot
  | none =>
    have unknown := inStep.lookup_eq_none_iff.mp listed
    have length : catalog.definitions.length = catalog.kinds.length := (List.length_map _).symm
    rw [if_neg unknown, lookup_cons_eq, length]
    -- The new kind stands behind all others, which it does not touch.
    by_cases same : kind = added.kind
    · subst same
      rw [if_pos rfl, Option.some.injEq]
      constructor
      · rintro rfl
        exact List.getElem?_concat_length
      · intro here
        by_contra elsewhere
        have among : added.kind ∈ catalog.kinds := by grind
        exact unknown among
    · rw [if_neg same, inStep kind slot]
      constructor
      · intro here
        have bound := (List.getElem?_eq_some_iff.mp here).1
        rw [List.getElem?_append_left bound]
        exact here
      · intro here
        grind

theorem foldl_insert (inStep : catalog.InStep) (added : List Definition) :
    (added.foldl Catalog.insert catalog).InStep :=
  List.foldlRecOn added _ inStep fun _ before definition _ => before.insert definition

theorem definitions_insert_of_unknown (inStep : catalog.InStep)
    (unknown : added.kind ∉ catalog.kinds) :
    (catalog.insert added).definitions = catalog.definitions ++ [added] := by
  rw [Catalog.insert, inStep.lookup_eq_none_iff.mpr unknown]

/-- Definitions of new kinds come last, in their order. -/
theorem definitions_foldl_insert (inStep : catalog.InStep) {added : List Definition}
    (distinct : (catalog.kinds ++ added.map (·.kind)).Nodup) :
    (added.foldl Catalog.insert catalog).definitions = catalog.definitions ++ added := by
  induction added generalizing catalog with
  | nil => simp
  | cons first rest ih =>
    have unknown : first.kind ∉ catalog.kinds := by grind
    have next := inStep.definitions_insert_of_unknown unknown
    rw [List.foldl_cons, ih (inStep.insert first), next, List.append_assoc, List.singleton_append]
    simpa [kinds, next] using distinct

/-- Looking up a kind gives what was added for it last. -/
theorem definition?_insert (inStep : catalog.InStep) (added : Definition) (kind : String) :
    (catalog.insert added).definition? kind =
      if kind = added.kind then some added else catalog.definition? kind := by
  unfold Catalog.insert definition?
  cases listed : catalog.slots.lookup added.kind with
  | some slot =>
    obtain ⟨old, here, named⟩ := inStep.stands listed
    have bound := (List.getElem?_eq_some_iff.mp here).1
    by_cases same : kind = added.kind
    · subst same
      simp [listed, bound]
    · rw [if_neg same]
      cases other : catalog.slots.lookup kind with
      | none => rfl
      | some place =>
        obtain ⟨definition, there, otherNamed⟩ := inStep.stands other
        -- Two kinds have two slots.
        have apart : slot ≠ place := by
          rintro rfl
          rw [here, Option.some.injEq] at there
          exact same (otherNamed.symm.trans ((congrArg _ there.symm).trans named))
        simp [List.getElem?_set_ne apart]
  | none =>
    simp only [lookup_cons_eq]
    by_cases same : kind = added.kind
    · simp [same]
    · rw [if_neg same, if_neg same]
      cases other : catalog.slots.lookup kind with
      | none => rfl
      | some place =>
        obtain ⟨definition, there, -⟩ := inStep.stands other
        have bound := (List.getElem?_eq_some_iff.mp there).1
        simp [List.getElem?_append_left bound]

end InStep

theorem builtIn_inStep : builtIn.InStep := InStep.empty.foldl_insert BuiltIn.definitions

end SignalGraph.Catalog
