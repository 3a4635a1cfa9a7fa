import SignalGraph.Catalog.Definition
import SignalGraph.Proofs.Json.Ordinary

/-! Parameters, definitions and catalog entries that were read, written, and read again. -/

set_option autoImplicit false

namespace SignalGraph

theorem ParameterType.ofWord?_word (type : ParameterType) : ofWord? type.word = some type := by
  cases type <;> rfl

namespace Parameter

def fields (parameter : Parameter) : List (String × Option Tree) :=
  [("id", some (.string parameter.id)), ("type", some (.string parameter.type.word)),
    ("default", parameter.default.map Json.tree), ("min", parameter.min.map .float),
    ("max", parameter.max.map .float), ("step", parameter.step.map .float),
    ("options", parameter.options.map fun options => .array (options.map .string)),
    ("description", parameter.description.map .string)]

theorem toTree_eq (parameter : Parameter) :
    parameter.toTree = .object (Tree.members parameter.fields) := by
  simp only [toTree, fields, Tree.members_some, Tree.members_map, Tree.members_nil,
    List.append_assoc, List.append_nil, List.cons_append, List.nil_append]

/-- The bounds and the step are numbers, if they are given. -/
structure IsFinite (parameter : Parameter) : Prop where
  min : ∀ x, parameter.min = some x → x.IsFinite
  max : ∀ x, parameter.max = some x → x.IsFinite
  step : ∀ x, parameter.step = some x → x.IsFinite

/-- The default, if there is one, is not `null` and comes back. -/
def Fits (room : Nat) (parameter : Parameter) : Prop :=
  ∀ value, parameter.default = some value → value ≠ .null ∧ value.Fits room

theorem ofTree?_eq_some_iff {tree : Tree} {parameter : Parameter} : ofTree? tree = some parameter ↔
    ∃ id type default min max step options description, tree.slots?
      [["id"], ["type"], ["default"], ["min"], ["max"], ["step"], ["options"], ["description"]] =
      some [id, type, default, min, max, step, options, description] ∧
    id.orDefault Tree.text? "" = some parameter.id ∧
    type.required (Tree.word? ParameterType.ofWord?) = some parameter.type ∧
    default.optional Json.ofTree? = some parameter.default ∧
    min.optional Tree.number? = some parameter.min ∧
    max.optional Tree.number? = some parameter.max ∧
    step.optional Tree.number? = some parameter.step ∧
    options.optional (Tree.list? Tree.text?) = some parameter.options ∧
    description.optional Tree.text? = some parameter.description := by
  constructor
  · intro read
    obtain ⟨slots, found, read⟩ := Option.bind_eq_some_iff.mp read
    split at read
    · simp only [Option.bind_eq_bind, Option.bind_eq_some_iff, Option.pure_def,
        Option.some.injEq] at read
      obtain ⟨_, _, _, _, _, _, _, _, _, _, _, _, _, _, _, _, rfl⟩ := read
      exact ⟨_, _, _, _, _, _, _, _, found, ‹_›, ‹_›, ‹_›, ‹_›, ‹_›, ‹_›, ‹_›, ‹_›⟩
    · cases read
  · rintro ⟨id, type, default, min, max, step, options, description, found,
      h1, h2, h3, h4, h5, h6, h7, h8⟩
    simp [ofTree?, found, h1, h2, h3, h4, h5, h6, h7, h8]

theorem isFinite_of_ofTree? {tree : Tree} {parameter : Parameter} (inRange : tree.InRange)
    (read : ofTree? tree = some parameter) : parameter.IsFinite := by
  obtain ⟨_, _, _, _, _, _, _, _, found, -, -, -, min, max, step, -, -⟩ :=
    ofTree?_eq_some_iff.mp read
  exact ⟨inRange.optional_isFinite found (by simp) min,
    inRange.optional_isFinite found (by simp) max, inRange.optional_isFinite found (by simp) step⟩

theorem fits_of_ofTree? {room : Nat} {tree : Tree} {parameter : Parameter}
    (ordinary : tree.Ordinary (room + 1)) (read : ofTree? tree = some parameter) :
    parameter.Fits room := by
  obtain ⟨_, _, _, _, _, _, _, _, found, -, -, default, -⟩ := ofTree?_eq_some_iff.mp read
  refine Slot.fits_of_optional (fun part given => ?_) default
  exact ordinary.of_slots? found (by simp [given])

theorem ofTree?_readBack_iff {parameter : Parameter} (finite : parameter.IsFinite) (room : Nat) :
    ofTree? (parameter.toTree.readBack (room + 2)) = some parameter ↔
      parameter.Fits (room + 1) := by
  have distinct : (parameter.fields.map Prod.fst).Nodup := by simp [fields]
  have slots := Tree.slots?_readBack distinct (room + 1)
  rw [← toTree_eq] at slots
  rw [ofTree?_eq_some_iff]
  constructor
  · rintro ⟨_, _, _, _, _, _, _, _, given, -, -, default, -⟩
    cases Option.some.inj (slots.symm.trans given)
    exact (Slot.optional_json_iff _ _).mp default
  · intro fits
    refine ⟨_, _, _, _, _, _, _, _, slots, rfl, ?_, (Slot.optional_json_iff _ _).mpr fits,
      Slot.optional_float_readBack finite.min _, Slot.optional_float_readBack finite.max _,
      Slot.optional_float_readBack finite.step _, ?_, Slot.optional_string_readBack _ _⟩
    · exact parameter.type.ofWord?_word
    · refine (Slot.optional_ofOption_iff _ _ _ _).mpr fun options _ => ?_
      have texts := (Tree.list?_readBack_iff .string Tree.text? options room).mpr fun _ _ => rfl
      exact congrArg (Option.map some) texts

end Parameter

/-! ## Definitions and catalog entries -/

theorem InputHandle.ofTree?_readBack (handle : InputHandle) (allowed : Nat) :
    ofTree? (handle.toTree.readBack (allowed + 1)) = some handle := by
  obtain ⟨id, multiple⟩ := handle
  cases id <;> rfl

theorem Handles.ofTree?_readBack (handles : Handles) (allowed : Nat) :
    ofTree? (handles.toTree.readBack (allowed + 3)) = some handles := by
  have inputs := (Tree.list?_readBack_iff InputHandle.toTree InputHandle.ofTree? handles.inputs
    (allowed + 1)).mpr fun handle _ => handle.ofTree?_readBack allowed
  have text : handles.toTree.readBack (allowed + 3) = .object
      [("inputs", (Tree.array (handles.inputs.map InputHandle.toTree)).readBack (allowed + 2)),
        ("hasOutput", .bool handles.hasOutput)] := rfl
  rw [text]
  simp [ofTree?, Tree.slots?, Tree.fieldSlot?, Slot.required, inputs, Tree.bool?]

namespace Definition

def IsFinite (definition : Definition) : Prop :=
  ∀ parameter ∈ definition.parameters, parameter.IsFinite

def Fits (room : Nat) (definition : Definition) : Prop :=
  ∀ parameter ∈ definition.parameters, parameter.Fits room

theorem part_of_ofTree? {tree : Tree} {definition : Definition}
    (read : ofTree? tree = some definition) {parameter : Parameter}
    (member : parameter ∈ definition.parameters) : ∃ list item : Tree,
      list.IsPart tree ∧ item.IsPart list ∧ Parameter.ofTree? item = some parameter := by
  obtain ⟨slots, found, read⟩ := Option.bind_eq_some_iff.mp read
  split at read
  · simp only [Option.bind_eq_bind, Option.bind_eq_some_iff, Option.pure_def,
      Option.some.injEq] at read
    obtain ⟨_, -, _, -, _, -, _, -, parameters, given, _, -, rfl⟩ := read
    obtain ⟨list, rfl, listRead⟩ := Slot.given_of_required given
    obtain ⟨item, isPart, itemRead⟩ := Tree.isPart_of_list? listRead member
    exact ⟨list, item, Tree.isPart_of_slots? found (by simp), isPart, itemRead⟩
  · cases read

theorem isFinite_of_ofTree? {tree : Tree} {definition : Definition} (inRange : tree.InRange)
    (read : ofTree? tree = some definition) : definition.IsFinite := by
  intro parameter member
  obtain ⟨list, item, listed, isPart, itemRead⟩ := part_of_ofTree? read member
  exact Parameter.isFinite_of_ofTree? ((inRange.of_isPart listed).of_isPart isPart) itemRead

theorem fits_of_ofTree? {room : Nat} {tree : Tree} {definition : Definition}
    (ordinary : tree.Ordinary (room + 3)) (read : ofTree? tree = some definition) :
    definition.Fits room := by
  intro parameter member
  obtain ⟨list, item, listed, isPart, itemRead⟩ := part_of_ofTree? read member
  exact Parameter.fits_of_ofTree? ((ordinary.of_isPart listed).of_isPart isPart) itemRead

theorem ofTree?_readBack_iff {definition : Definition} (finite : definition.IsFinite)
    (room : Nat) :
    ofTree? (definition.toTree.readBack (room + 4)) = some definition ↔
      definition.Fits (room + 1) := by
  have parameters : Tree.list? Parameter.ofTree?
      ((Tree.array (definition.parameters.map Parameter.toTree)).readBack (room + 3)) =
        some definition.parameters ↔ definition.Fits (room + 1) := by
    refine (Tree.list?_readBack_iff _ _ _ _).trans (forall₂_congr fun parameter member => ?_)
    exact Parameter.ofTree?_readBack_iff (finite parameter member) room
  have text : definition.toTree.readBack (room + 4) = .object
      [("kind", .string definition.kind), ("name", .string definition.name),
        ("description", (Tree.nullable .string definition.description).readBack (room + 3)),
        ("category", .string definition.category.word),
        ("params", (Tree.array (definition.parameters.map Parameter.toTree)).readBack (room + 3)),
        ("handles", definition.handles.toTree.readBack (room + 3))] := rfl
  rw [← parameters, text]
  obtain ⟨kind, name, description, category, _, handles⟩ := definition
  have placed := handles.ofTree?_readBack room
  simp [ofTree?, Tree.slots?, Tree.fieldSlot?, Slot.required, Slot.nullable,
    Tree.nullable?_readBack, placed, Tree.text?, Tree.word?, Option.bind_eq_some_iff]

end Definition

namespace CatalogEntry

def IsFinite (entry : CatalogEntry) : Prop :=
  ∀ parameter ∈ entry.parameters.entries, parameter.2.IsFinite

def Fits (room : Nat) (entry : CatalogEntry) : Prop :=
  ∀ parameter ∈ entry.parameters.entries, parameter.2.Fits room

theorem part_of_ofTree? {tree : Tree} {entry : CatalogEntry} (read : ofTree? tree = some entry)
    {parameter : String × Parameter} (member : parameter ∈ entry.parameters.entries) :
    ∃ map item : Tree, map.IsPart tree ∧ item.IsPart map ∧
      Parameter.ofTree? item = some parameter.2 := by
  obtain ⟨slots, found, read⟩ := Option.bind_eq_some_iff.mp read
  split at read
  · simp only [Option.bind_eq_bind, Option.bind_eq_some_iff, Option.pure_def,
      Option.some.injEq] at read
    obtain ⟨_, -, _, -, _, -, _, -, parameters, given, rfl⟩ := read
    rcases Slot.given_of_orDefault given with ⟨map, rfl, mapRead⟩ | rfl
    · obtain ⟨item, isPart, itemRead⟩ := Tree.isPart_of_keyMap? mapRead member
      exact ⟨map, item, Tree.isPart_of_slots? found (by simp), isPart, itemRead⟩
    · exact absurd member List.not_mem_nil
  · cases read

theorem isFinite_of_ofTree? {tree : Tree} {entry : CatalogEntry} (inRange : tree.InRange)
    (read : ofTree? tree = some entry) : entry.IsFinite := by
  intro parameter member
  obtain ⟨map, item, mapped, isPart, itemRead⟩ := part_of_ofTree? read member
  exact Parameter.isFinite_of_ofTree? ((inRange.of_isPart mapped).of_isPart isPart) itemRead

theorem fits_of_ofTree? {room : Nat} {tree : Tree} {entry : CatalogEntry}
    (ordinary : tree.Ordinary (room + 3)) (read : ofTree? tree = some entry) :
    entry.Fits room := by
  intro parameter member
  obtain ⟨map, item, mapped, isPart, itemRead⟩ := part_of_ofTree? read member
  exact Parameter.fits_of_ofTree? ((ordinary.of_isPart mapped).of_isPart isPart) itemRead

theorem ofTree?_readBack_iff {entry : CatalogEntry} (finite : entry.IsFinite) (room : Nat) :
    ofTree? (entry.toTree.readBack (room + 4)) = some entry ↔ entry.Fits (room + 1) := by
  obtain ⟨kind, name, description, category, parameters⟩ := entry
  let map : Tree := .object (parameters.entries.map fun entry => (entry.1, entry.2.toTree))
  have held : Tree.keyMap? Parameter.ofTree? (map.readBack (room + 3)) = some parameters ↔
      ∀ parameter ∈ parameters.entries, parameter.2.Fits (room + 1) := by
    refine (Tree.keyMap?_readBack_iff _ _ _ _).trans (forall₂_congr fun parameter member => ?_)
    exact Parameter.ofTree?_readBack_iff (finite parameter member) room
  have text : (toTree ⟨kind, name, description, category, parameters⟩).readBack (room + 4) = .object
      [("kind", .string kind), ("name", .string name),
        ("description", (Tree.nullable .string description).readBack (room + 3)),
        ("category", (Tree.nullable .string category).readBack (room + 3)),
        ("params", map.readBack (room + 3))] := rfl
  rw [text]
  simp [ofTree?, Tree.slots?, Tree.fieldSlot?, Slot.required, Slot.optional, Slot.orDefault,
    Tree.nullable?_readBack, Tree.text?, Option.bind_eq_some_iff, held, Fits]

end CatalogEntry

end SignalGraph
