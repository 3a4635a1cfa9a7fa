import SignalGraph.Document.Text
import SignalGraph.Proofs.Json.Record

/-! Documents that are written are read back, from either layout and in either way.

`Portable` lists what a document must keep to: coordinates that are numbers, a nesting that readers
allow, and no map that begins with the key reserved for embedded texts. A document comes back just
when it does.
-/

set_option autoImplicit false

namespace SignalGraph

namespace Slot

variable {α : Type}

@[simp]
theorem optional_absent (read : Tree → Option α) : absent.optional read = some none := rfl

@[simp]
theorem optional_string (text : String) :
    (given (.string text)).optional Tree.text? = some (some text) := rfl

@[simp]
theorem optional_null (read : Tree → Option α) : (given .null).optional read = some none := rfl

@[simp]
theorem nullAsDefault_string (text default : String) :
    (given (.string text)).nullAsDefault Tree.text? default = some text := rfl

@[simp]
theorem nullAsDefault_bool (value default : Bool) :
    (given (.bool value)).nullAsDefault Tree.bool? default = some value := rfl

end Slot

namespace Position

def IsFinite (position : Position) : Prop := position.x.IsFinite ∧ position.y.IsFinite

instance (position : Position) : Decidable position.IsFinite :=
  inferInstanceAs (Decidable (_ ∧ _))

theorem orderless : Tree.Orderless ofTree? := .of_slots fun _ => rfl

theorem ofTree?_members_iff (x y : Tree) (position : Position) :
    ofTree? (.object [("x", x), ("y", y)]) = some position ↔
      x.number? = some position.x ∧ y.number? = some position.y := by
  obtain ⟨px, py⟩ := position
  simp [ofTree?, Tree.slots?, Tree.fieldSlot?, Slot.required, Option.bind_eq_some_iff]

theorem read?_iff (reading : Reading) (position : Position) (allowed : Nat) {other : Position} :
    reading.read? ofTree? (position.toTree.readBack (allowed + 1)) = some other ↔
      position.IsFinite ∧ position = other := by
  have text : position.toTree.readBack (allowed + 1) = .object
      [("x", (Tree.float position.x).readBack allowed),
        ("y", (Tree.float position.y).readBack allowed)] := rfl
  have fields : reading.read? ofTree? (position.toTree.readBack (allowed + 1)) = some other ↔
      reading.read? Tree.number? ((Tree.float position.x).readBack allowed) = some other.x ∧
      reading.read? Tree.number? ((Tree.float position.y).readBack allowed) = some other.y := by
    rw [text, Reading.read?, Reading.hand?_record orderless rfl (by simp)]
    simp only [Reading.handMembers?, Reading.read?, Option.bind_eq_bind, Option.pure_def,
      Option.bind_assoc, Option.bind_some, Option.bind_eq_some_iff, ofTree?_members_iff]
    grind
  obtain ⟨x, y⟩ := position
  obtain ⟨otherX, otherY⟩ := other
  simp only [fields, Reading.read?_float_iff, IsFinite, Position.mk.injEq, and_and_and_comm]

/-- A node may do without a position. -/
theorem read?_nullable_iff (reading : Reading) (position : Option Position) (allowed : Nat)
    {other : Option Position} :
    reading.read? (fun tree => (Slot.given tree).optional ofTree?)
        ((Tree.nullable toTree position).readBack (allowed + 1)) = some other ↔
      (∀ given, position = some given → given.IsFinite) ∧ position = other := by
  cases position with
  | none => simp [Tree.nullable, Tree.readBack, Reading.read?_null, Slot.optional, Tree.nullable?]
  | some position =>
    have shape : ∃ members, position.toTree.readBack (allowed + 1) = .object members ∧
        Json.isEmbedding members = false := ⟨_, rfl, rfl⟩
    obtain ⟨members, text, plain⟩ := shape
    have read : ∀ again, reading.read? ofTree? (.object members) = some again ↔
        position.IsFinite ∧ position = again := fun _ => text ▸ read?_iff reading position allowed
    rw [Tree.nullable, text, Reading.read?_optional plain]
    simp only [Option.map_eq_some_iff, read, Option.some.injEq, forall_eq']
    grind

end Position

namespace SavedNode

/-- The position of the node, if it has one, is made of numbers. -/
def IsFinite (node : SavedNode) : Prop :=
  ∀ position, node.position = some position → position.IsFinite

instance (node : SavedNode) : Decidable node.IsFinite :=
  decidable_of_iff (∀ position ∈ node.position, position.IsFinite) Iff.rfl

variable {position data label parameters : Tree}

theorem data_orderless : Tree.Orderless dataOfTree? := .of_slots fun _ => rfl

theorem dataOfTree?_members_iff {map : KeyMap Json} {text : String} :
    dataOfTree? (.object [("params", parameters), ("label", label)]) = some (map, text) ↔
      Reading.map? parameters = some map ∧
      (Slot.given label).nullAsDefault Tree.text? "" = some text := by
  simp [dataOfTree?, Tree.slots?, Tree.fieldSlot?, Reading.map?, Option.bind_eq_some_iff]

theorem orderless : Tree.Orderless ofTree? := .of_slots fun _ => rfl

theorem ofTree?_members_iff {node other : SavedNode} :
    ofTree? (.object (Tree.optionalMember "id" .string node.id ++
        [("kind", .string node.kind), ("position", position), ("data", data)])) = some other ↔
      (Slot.given position).optional Position.ofTree? = some other.position ∧
      (Slot.given data).nullAsDefault dataOfTree? (.empty, "") =
        some (other.parameters, other.label) ∧
      node.id = other.id ∧ node.kind = other.kind := by
  obtain ⟨id, kind, place, map, text⟩ := node
  obtain ⟨otherId, otherKind, otherPlace, otherMap, otherText⟩ := other
  cases id <;>
    simp [Tree.optionalMember, ofTree?, Tree.slots?, Tree.fieldSlot?, Option.bind_eq_some_iff] <;>
    grind

theorem read?_data_iff (reading : Reading) (text : String) (parameters : Tree)
    {map : KeyMap Json} {other : String} :
    reading.read? (fun tree => (Slot.given tree).nullAsDefault dataOfTree? (.empty, ""))
        (.object [("params", parameters), ("label", .string text)]) = some (map, other) ↔
      reading.read? Reading.map? parameters = some map ∧ text = other := by
  rw [Reading.read?_nullAsDefault rfl, Reading.read?,
    Reading.hand?_record data_orderless rfl (by simp)]
  simp only [Reading.handMembers?, Reading.hand?_string, Reading.read?, Option.bind_eq_bind,
    Option.pure_def, Option.bind_assoc, Option.bind_some, Option.bind_eq_some_iff,
    dataOfTree?_members_iff, Slot.nullAsDefault_string, Option.some.injEq]
  grind

/-- A node of which a reader made another: the same node, with the parameters it made of the
parameters. -/
def ComesBackAs (reading : Reading) (allowed : Nat) (node other : SavedNode) : Prop :=
  node.IsFinite ∧
  reading.read? Reading.map? (node.parameters.toTree.readBack allowed) = some other.parameters ∧
  other = { node with parameters := other.parameters }

theorem read?_iff (reading : Reading) (node : SavedNode) (allowed : Nat) {other : SavedNode} :
    reading.read? ofTree? (node.toTree.readBack (allowed + 2)) = some other ↔
      ComesBackAs reading allowed node other := by
  have text : node.toTree.readBack (allowed + 2) = .object
      (Tree.optionalMember "id" .string node.id ++ [("kind", .string node.kind),
        ("position", (Tree.nullable Position.toTree node.position).readBack (allowed + 1)),
        ("data", .object [("params", node.parameters.toTree.readBack allowed),
          ("label", .string node.label)])]) := by
    obtain ⟨id, kind, position, map, label⟩ := node
    cases id <;> rfl
  have fields : reading.read? ofTree? (node.toTree.readBack (allowed + 2)) = some other ↔
      reading.read? (fun tree => (Slot.given tree).optional Position.ofTree?)
        ((Tree.nullable Position.toTree node.position).readBack (allowed + 1)) =
          some other.position ∧
      reading.read? (fun tree => (Slot.given tree).nullAsDefault dataOfTree? (.empty, ""))
        (.object [("params", node.parameters.toTree.readBack allowed),
          ("label", .string node.label)]) = some (other.parameters, other.label) ∧
      node.id = other.id ∧ node.kind = other.kind := by
    rw [text, Reading.read?, Reading.hand?_record orderless]
    · simp only [Reading.handMembers?_append, Reading.handMembers?_optionalMember,
        Reading.handMembers?, Reading.hand?_string, Reading.read?, Option.bind_eq_bind,
        Option.pure_def, Option.bind_assoc, Option.bind_some, Option.bind_eq_some_iff,
        ofTree?_members_iff]
      grind
    · cases node.id <;> rfl
    · cases node.id <;> simp [Tree.optionalMember]
  obtain ⟨id, kind, position, map, label⟩ := node
  obtain ⟨otherId, otherKind, otherPosition, otherMap, otherLabel⟩ := other
  simp only [fields, Position.read?_nullable_iff, read?_data_iff, ComesBackAs, IsFinite,
    SavedNode.mk.injEq]
  grind

end SavedNode

namespace SavedEdge

theorem orderless : Tree.Orderless ofTree? := .of_slots fun _ => rfl

theorem ofTree?_toTree (edge : SavedEdge) : ofTree? edge.toTree = some edge := by
  obtain ⟨id, source, target, sourceHandle, targetHandle⟩ := edge
  cases id <;> cases sourceHandle <;> cases targetHandle <;>
    simp [toTree, Tree.optionalMember, Tree.nullable, ofTree?, Tree.slots?, Tree.fieldSlot?]

/-- Texts and nothing else: an edge always comes back. -/
theorem read?_eq (reading : Reading) (edge : SavedEdge) (allowed : Nat) :
    reading.read? ofTree? (edge.toTree.readBack (allowed + 1)) = some edge := by
  have text : edge.toTree.readBack (allowed + 1) = edge.toTree := by
    obtain ⟨id, source, target, sourceHandle, targetHandle⟩ := edge
    cases id <;> cases sourceHandle <;> cases targetHandle <;> rfl
  have handles : ∀ handle : Option String,
      reading.hand? (Tree.nullable .string handle) = some (Tree.nullable .string handle) := by
    intro handle
    cases handle with
    | none => exact Reading.hand?_null
    | some name => exact Reading.hand?_string name
  rw [text, toTree, Reading.read?, Reading.hand?_record orderless]
  · simp only [Reading.handMembers?_append, Reading.handMembers?_optionalMember,
      Reading.handMembers?, Reading.hand?_string, handles, Option.bind_eq_bind, Option.pure_def,
      Option.bind_some]
    exact ofTree?_toTree edge
  · cases edge.id <;> rfl
  · cases edge.id <;> simp [Tree.optionalMember]

end SavedEdge

namespace SavedGraph

theorem orderless : Tree.Orderless ofTree? := .of_slots fun _ => rfl

theorem ofTree?_members_iff {nodes edges : Tree} {graph : SavedGraph} :
    ofTree? (.object [("nodes", nodes), ("edges", edges)]) = some graph ↔
      Tree.list? SavedNode.ofTree? nodes = some graph.nodes ∧
      (Slot.given edges).nullAsDefault (Tree.list? SavedEdge.ofTree?) [] = some graph.edges := by
  obtain ⟨nodes, edges⟩ := graph
  simp [ofTree?, Tree.slots?, Tree.fieldSlot?, Slot.required, Option.bind_eq_some_iff]

theorem toTree_readBack (graph : SavedGraph) (allowed : Nat) :
    graph.toTree.readBack (allowed + 4) = .object
      [("nodes", .array (graph.nodes.map fun node => node.toTree.readBack (allowed + 2))),
        ("edges", .array (graph.edges.map fun edge => edge.toTree.readBack (allowed + 2)))] := by
  rw [← Tree.readBackItems_map, ← Tree.readBackItems_map]
  rfl

/-- A graph comes back with its edges, and with what became of its nodes. -/
theorem read?_iff (reading : Reading) (graph : SavedGraph) (allowed : Nat) {other : SavedGraph} :
    reading.read? ofTree? (graph.toTree.readBack (allowed + 4)) = some other ↔
      List.Forall₂ (SavedNode.ComesBackAs reading allowed) graph.nodes other.nodes ∧
      graph.edges = other.edges := by
  have edges : reading.read?
      (fun tree => (Slot.given tree).nullAsDefault (Tree.list? SavedEdge.ofTree?) [])
      (.array (graph.edges.map fun edge => edge.toTree.readBack (allowed + 2))) =
        some graph.edges := by
    rw [Reading.read?_nullAsDefault_array, Reading.read?_list_iff, List.forall₂_same]
    exact fun edge _ => edge.read?_eq reading _
  have nodes : reading.read? (Tree.list? SavedNode.ofTree?)
      (.array (graph.nodes.map fun node => node.toTree.readBack (allowed + 2))) =
        some other.nodes ↔
      List.Forall₂ (SavedNode.ComesBackAs reading allowed) graph.nodes other.nodes := by
    rw [Reading.read?_list_iff]
    simp only [SavedNode.read?_iff]
  rw [toTree_readBack, ← nodes, Reading.read?, Reading.hand?_record orderless rfl (by simp)]
  simp only [Reading.handMembers?, Reading.read?, Option.bind_eq_bind, Option.pure_def,
    Option.bind_assoc, Option.bind_some, Option.bind_eq_some_iff, ofTree?_members_iff] at edges ⊢
  grind

end SavedGraph

namespace Document

theorem orderless : Tree.Orderless ofTree? := .of_slots fun _ => rfl

/-- The members of a document, with a graph and a configuration of some other make. -/
def membersWith (document : Document) (graph config : Tree) : List (String × Tree) :=
  [("name", .string document.name)] ++
    (Tree.optionalMember "description" .string document.description ++
      [("graph", graph), ("config", config), ("is_public", .bool document.isPublic)])

theorem toTree_readBack (document : Document) (allowed : Nat) :
    document.toTree.readBack (allowed + 1) =
      .object (document.membersWith (document.graph.toTree.readBack allowed)
        (document.config.toTree.readBack allowed)) := by
  obtain ⟨name, description, graph, config, isPublic⟩ := document
  cases description <;> rfl

theorem ofTree?_members_iff {graph config : Tree} {document other : Document} :
    ofTree? (.object (document.membersWith graph config)) = some other ↔
      SavedGraph.ofTree? graph = some other.graph ∧ Reading.map? config = some other.config ∧
      other = { document with graph := other.graph, config := other.config } := by
  obtain ⟨name, description, saved, map, isPublic⟩ := document
  obtain ⟨otherName, otherDescription, otherGraph, otherMap, otherPublic⟩ := other
  cases description <;>
    simp [membersWith, Tree.optionalMember, ofTree?, Tree.slots?, Tree.fieldSlot?, Slot.required,
      Reading.map?, Option.bind_eq_some_iff] <;>
    grind

section Members

variable (document : Document) (graph config : Tree)

theorem isEmbedding_members : Json.isEmbedding (document.membersWith graph config) = false := by
  cases document.description <;> rfl

theorem distinct_members : ((document.membersWith graph config).map Prod.fst).Nodup := by
  unfold membersWith
  cases document.description <;> simp [Tree.optionalMember]

theorem handMembers?_members (reading : Reading) :
    reading.handMembers? (document.membersWith graph config) =
      (reading.hand? graph).bind fun graph => (reading.hand? config).bind fun config =>
        some (document.membersWith graph config) := by
  simp [membersWith, Reading.handMembers?_append, Reading.handMembers?_optionalMember,
    Reading.handMembers?, Reading.hand?_string, Reading.hand?_bool, Option.bind_assoc]

end Members

/-- A document comes back with its texts, and with what became of its graph and its
configuration. -/
theorem read?_iff (reading : Reading) (document : Document) (allowed : Nat) {other : Document} :
    reading.read? ofTree? (document.toTree.readBack (allowed + 5)) = some other ↔
      List.Forall₂ (SavedNode.ComesBackAs reading allowed) document.graph.nodes
        other.graph.nodes ∧
      document.graph.edges = other.graph.edges ∧
      reading.read? Reading.map? (document.config.toTree.readBack (allowed + 4)) =
        some other.config ∧
      other = { document with graph := other.graph, config := other.config } := by
  rw [toTree_readBack, ← and_assoc, ← SavedGraph.read?_iff, Reading.read?,
    Reading.hand?_record orderless (isEmbedding_members _ _ _) (distinct_members _ _ _),
    handMembers?_members]
  simp only [Reading.read?, Option.bind_assoc, Option.bind_some, Option.bind_eq_some_iff,
    ofTree?_members_iff]
  grind

end Document

/-! ## Nesting -/

namespace Tree

theorem itemsDepth_map_le_iff {α : Type} (write : α → Tree) (values : List α) (allowed : Nat) :
    itemsDepth (values.map write) ≤ allowed ↔ ∀ value ∈ values, (write value).depth ≤ allowed := by
  rw [itemsDepth_le_iff, List.forall_mem_map]

end Tree

theorem SavedNode.depth_le_iff (node : SavedNode) (allowed : Nat) :
    node.toTree.depth ≤ allowed + 2 ↔ node.parameters.toTree.depth ≤ allowed := by
  obtain ⟨id, kind, position, map, label⟩ := node
  cases id <;> cases position <;>
    simp [toTree, Tree.optionalMember, Tree.nullable, Position.toTree, Tree.depth,
      Tree.membersDepth]

theorem SavedEdge.depth_le (edge : SavedEdge) : edge.toTree.depth ≤ 1 := by
  obtain ⟨id, source, target, sourceHandle, targetHandle⟩ := edge
  cases id <;> cases sourceHandle <;> cases targetHandle <;> exact Nat.le_refl 1

theorem SavedGraph.depth_le_iff (graph : SavedGraph) (allowed : Nat) :
    graph.toTree.depth ≤ allowed + 4 ↔
      ∀ node ∈ graph.nodes, node.parameters.toTree.depth ≤ allowed := by
  have nodes := Tree.itemsDepth_map_le_iff SavedNode.toTree graph.nodes (allowed + 2)
  have edges := (Tree.itemsDepth_map_le_iff SavedEdge.toTree graph.edges (allowed + 2)).mpr
    fun edge _ => Nat.le_trans edge.depth_le (by omega)
  simp only [SavedNode.depth_le_iff] at nodes
  rw [← nodes]
  simp only [toTree, Tree.depth, Tree.membersDepth]
  omega

theorem Document.depth_le_iff (document : Document) (allowed : Nat) :
    document.toTree.depth ≤ allowed + 5 ↔
      (∀ node ∈ document.graph.nodes, node.parameters.toTree.depth ≤ allowed) ∧
      document.config.toTree.depth ≤ allowed + 4 := by
  rw [← SavedGraph.depth_le_iff]
  obtain ⟨name, description, graph, config, isPublic⟩ := document
  cases description <;>
    simp only [toTree, Tree.optionalMember, List.cons_append, List.nil_append, Tree.depth,
      Tree.membersDepth] <;>
    omega

/-! ## The two readers -/

namespace Document

/-- What a document must keep to so that a reading brings it back. -/
structure Portable (reading : Reading) (document : Document) : Prop where
  finite : ∀ node ∈ document.graph.nodes, node.IsFinite
  shallow : document.toTree.depth ≤ Tree.depthLimit
  parameters : ∀ node ∈ document.graph.nodes, reading.Admits node.parameters
  config : reading.Admits document.config

instance (reading : Reading) (document : Document) : Decidable (document.Portable reading) :=
  decidable_of_iff
    ((∀ node ∈ document.graph.nodes, node.IsFinite) ∧ document.toTree.depth ≤ Tree.depthLimit ∧
      (∀ node ∈ document.graph.nodes, reading.Admits node.parameters) ∧
      reading.Admits document.config)
    ⟨fun ⟨finite, shallow, parameters, config⟩ => ⟨finite, shallow, parameters, config⟩,
      fun ⟨finite, shallow, parameters, config⟩ => ⟨finite, shallow, parameters, config⟩⟩

theorem read?_iff_portable (reading : Reading) (modest : reading.Modest) (document : Document) :
    reading.read? ofTree? (document.toTree.readBack Tree.depthLimit) = some document ↔
      document.Portable reading := by
  have maps : ∀ (map : KeyMap Json) (allowed : Nat),
      reading.read? Reading.map? (map.toTree.readBack allowed) = some map ↔
        map.toTree.depth ≤ allowed ∧ reading.Admits map := Reading.hand?_map_iff modest
  have depth := document.depth_le_iff 122
  have limit : Tree.depthLimit = 122 + 5 := rfl
  rw [limit, read?_iff, List.forall₂_same]
  simp only [SavedNode.ComesBackAs, maps, and_true, true_and]
  constructor
  · rintro ⟨nodes, config⟩
    exact ⟨fun node member => (nodes node member).1,
      depth.mpr ⟨fun node member => (nodes node member).2.1, config.1⟩,
      fun node member => (nodes node member).2.2, config.2⟩
  · intro portable
    obtain ⟨parameters, config⟩ := depth.mp portable.shallow
    exact ⟨fun node member => ⟨portable.finite node member, parameters node member,
      portable.parameters node member⟩, config, portable.config⟩

/-- The tree has a graph with a list of nodes. -/
def ListsNodes (tree : Tree) : Prop :=
  ∃ graph nodes, graphMember? tree = some graph ∧ graph.member? "nodes" = some (.array nodes)

theorem ofValue_eq_ok_iff (value : Json) (document : Document) :
    ofValue value = .ok document ↔
      ListsNodes value.tree ∧ ofTree? value.tree = some document := by
  unfold ofValue ListsNodes
  cases found : graphMember? value.tree with
  | none => simp
  | some graph =>
    have list : ((graph.member? "nodes").map Tree.isArray).getD false = true ↔
        ∃ nodes, graph.member? "nodes" = some (.array nodes) := by
      cases nodes : graph.member? "nodes" with
      | none => simp
      | some tree => cases tree <;> simp [Tree.isArray]
    simp only [list, Option.some.injEq]
    split
    · cases read : ofTree? value.tree <;> simp_all
    · simp_all

theorem listsNodes_of_hand? {reading : Reading} {document : Document} {handed : Tree}
    (found : reading.hand? (document.toTree.readBack Tree.depthLimit) = some handed) :
    ListsNodes handed := by
  have limit : Tree.depthLimit = 126 + 1 := rfl
  rw [limit, toTree_readBack] at found
  have member : ∀ graph config : Tree, ("graph", graph) ∈ document.membersWith graph config := by
    simp [membersWith]
  obtain ⟨graph, inside, graphFound⟩ := Reading.member?_hand? (isEmbedding_members _ _ _)
    (distinct_members _ _ _) found (member _ _)
  rw [SavedGraph.toTree_readBack document.graph 122] at inside
  obtain ⟨nodes, list, nodesFound⟩ := Reading.member?_hand? rfl (by simp) inside List.mem_cons_self
  rw [Reading.hand?_array] at list
  obtain ⟨items, -, rfl⟩ := Option.map_eq_some_iff.mp list
  exact ⟨graph, items, by rw [graphMember?, graphFound]; rfl, nodesFound⟩

section Parse

variable {text : String} {document : Document}
  (read : Tree.read? text = some (document.toTree.readBack Tree.depthLimit))
include read

/-- Embedded texts are nested less deep than the text is long. -/
theorem parse_eq_ok_iff_read? {other : Document} :
    parse text = .ok other ↔
      (Reading.valued (Json.ofNestedText? text.length)).read? ofTree?
        (document.toTree.readBack Tree.depthLimit) = some other := by
  have value : Json.ofText? text = Json.denoted? (Json.ofNestedText? text.length)
      (document.toTree.readBack Tree.depthLimit) := by
    rw [Json.ofText?, Json.ofNestedText?, read, Option.bind_some]
  rw [parse, value, Reading.read?]
  cases denoted : Json.denoted? (Json.ofNestedText? text.length)
      (document.toTree.readBack Tree.depthLimit) with
  | none => simp [Reading.hand?, denoted]
  | some value =>
    have handed : (Reading.valued (Json.ofNestedText? text.length)).hand?
        (document.toTree.readBack Tree.depthLimit) = some value.tree := by
      simp [Reading.hand?, denoted]
    have listed := listsNodes_of_hand? handed
    rw [handed, Option.bind_some]
    simp [ofValue_eq_ok_iff, listed]

theorem parse_eq_ok_iff :
    parse text = .ok document ↔ document.Portable (.valued Json.ofText?) := by
  have modest : (Reading.valued (Json.ofNestedText? text.length)).Modest :=
    Json.modest_ofNestedText? _
  rw [parse_eq_ok_iff_read? read, read?_iff_portable _ modest]
  -- What a value admits does not depend on who reads the embedded texts.
  exact ⟨fun ⟨finite, shallow, parameters, config⟩ => ⟨finite, shallow, parameters, config⟩,
    fun ⟨finite, shallow, parameters, config⟩ => ⟨finite, shallow, parameters, config⟩⟩

/-- A text that is accepted at all, as whatever document, was written for one whose coordinates are
numbers and that is not nested too deep. -/
theorem fits_of_parse_eq_ok {other : Document} (accepted : parse text = .ok other) :
    (∀ node ∈ document.graph.nodes, node.IsFinite) ∧ document.toTree.depth ≤ Tree.depthLimit := by
  have found := (parse_eq_ok_iff_read? read).mp accepted
  constructor
  · obtain ⟨nodes, -⟩ := (read?_iff _ document 122).mp found
    exact ((List.forall₂_and_left _ _).mp nodes).1
  · obtain ⟨handed, value, -⟩ := Option.bind_eq_some_iff.mp found
    obtain ⟨value, denoted, -⟩ := Option.map_eq_some_iff.mp value
    refine Nat.not_lt.mp fun deep => ?_
    have unreadable := Tree.isReadable_readBack deep
    exact absurd (Json.readable_of_denoted? denoted) (Bool.eq_false_iff.mp unreadable)

end Parse

/-- A document comes back from its texts just when it is portable. -/
theorem reads_back_iff (document : Document) :
    (parse document.pretty = .ok document ↔ document.Portable (.valued Json.ofText?)) ∧
    (parse document.compact = .ok document ↔ document.Portable (.valued Json.ofText?)) ∧
    (ofStored? document.compact = some document ↔ document.Portable .straight) := by
  refine ⟨parse_eq_ok_iff (Tree.read?_indented _), parse_eq_ok_iff (Tree.read?_compact _), ?_⟩
  rw [← read?_iff_portable .straight trivial, ofStored?, compact, Tree.read?_compact]
  rfl

/-- A configuration that begins with the reserved key comes back from the store, but no file that
holds it is read as the document it was written for. -/
theorem reads_back_reserved :
    let document : Document :=
      { name := "", description := none, graph := ⟨[], []⟩
        config := .ofList [(Json.embeddingKey, .string "2"), ("a", .bool true)], isPublic := false }
    document.toTree.depth ≤ Tree.depthLimit ∧ document.graph.nodes = [] ∧
      parse document.pretty ≠ .ok document ∧ parse document.compact ≠ .ok document ∧
      ofStored? document.compact = some document := by
  intro document
  have shallow : document.toTree.depth ≤ Tree.depthLimit := by decide +kernel
  have reserved : ¬document.Portable (.valued Json.ofText?) := by
    intro portable
    exact absurd portable.config.1 (by decide +kernel)
  have stored : document.Portable .straight :=
    { finite := fun _ member => absurd member List.not_mem_nil
      shallow
      parameters := fun _ member => absurd member List.not_mem_nil
      config := ⟨trivial, trivial, trivial⟩ }
  obtain ⟨pretty, compact, straight⟩ := reads_back_iff document
  exact ⟨shallow, rfl, reserved ∘ pretty.mp, reserved ∘ compact.mp, straight.mpr stored⟩

end Document

end SignalGraph
