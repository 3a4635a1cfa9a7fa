import SignalGraph.Proofs.Document.Text
import SignalGraph.Proofs.Json.Written

/-! Members that are `null`, and what a document is without them.

To every field `null` is as good as no member. But a field that has two names is refused when both
are there, and a graph under its present name hides one under the older name, whatever the values.
-/

set_option autoImplicit false

namespace SignalGraph

/-! ## Fields of an object -/

section Lookup

variable {α : Type} {entries : List (String × α)}

theorem lookup_eq_none_of_new {key : String} (new : key ∉ entries.map Prod.fst) :
    entries.lookup key = none := by
  refine List.lookup_eq_none_iff.mpr fun entry member => ?_
  have different : key ≠ entry.1 := fun same => new (same ▸ List.mem_map_of_mem member)
  simpa using different

theorem lookup_filter_value (keep : α → Bool) (distinct : (entries.map Prod.fst).Nodup)
    (key : String) :
    (entries.filter fun entry => keep entry.2).lookup key = (entries.lookup key).filter keep := by
  -- Were a key there twice, the second entry would show where the first is left out.
  induction entries with
  | nil => rfl
  | cons entry rest ih =>
    obtain ⟨new, distinct⟩ := List.nodup_cons.mp distinct
    rw [List.filter_cons, lookup_cons_eq]
    by_cases same : key = entry.1
    · rw [if_pos same]
      cases kept : keep entry.2 with
      | true => rw [if_pos rfl, lookup_cons_eq, if_pos same, Option.filter_some_pos kept]
      | false =>
        rw [if_neg Bool.false_ne_true, ih distinct, same, lookup_eq_none_of_new new,
          Option.filter_some_neg kept]
        rfl
    · rw [if_neg same, ← ih distinct]
      split
      · rw [lookup_cons_eq, if_neg same]
      · rfl

end Lookup

namespace Tree

section Slots

variable {members : List (String × Tree)} (distinct : (members.map Prod.fst).Nodup)
include distinct

theorem filter_name (name : String) :
    members.filter (fun entry => [name].contains entry.1) =
      ((members.lookup name).map (name, ·)).toList := by
  induction members with
  | nil => rfl
  | cons entry rest ih =>
    obtain ⟨new, distinct⟩ := List.nodup_cons.mp distinct
    rw [List.filter_cons, lookup_cons_eq, ih distinct]
    by_cases same : name = entry.1
    · subst same
      simp [lookup_eq_none_of_new new]
    · simp [same, Ne.symm same]

/-- A field of one name is given the member of that name. -/
theorem fieldSlot?_one (name : String) :
    fieldSlot? members [name] = some (Slot.ofOption (members.lookup name)) := by
  rw [fieldSlot?, filter_name distinct]
  cases members.lookup name <;> rfl

/-- A field of two names is given the only member of such a name. -/
theorem fieldSlot?_two {first second : String} (different : first ≠ second) :
    fieldSlot? members [first, second] =
      if (members.lookup first).isSome ∧ (members.lookup second).isSome then none
      else some (Slot.ofOption ((members.lookup first).or (members.lookup second))) := by
  have split : (members.filter fun entry => [first, second].contains entry.1).Perm
      (members.filter (fun entry => [first].contains entry.1) ++
        members.filter fun entry => [second].contains entry.1) := by
    refine (List.filter_append_perm (fun entry => entry.1 == first) _).symm.trans (.of_eq ?_)
    rw [List.filter_filter, List.filter_filter]
    congr 1 <;> refine List.filter_congr fun entry _ => ?_ <;>
      by_cases same : entry.1 = first <;> simp [same, different]
  have chosen : fieldSlot? (members.filter fun entry => [first, second].contains entry.1)
      [first, second] = fieldSlot? members [first, second] := by
    rw [fieldSlot?, fieldSlot?, List.filter_filter]
    simp only [Bool.and_self]
  -- The members of either name can be gathered first, as only how many there are counts.
  rw [← chosen, fieldSlot?_perm split, filter_name distinct, filter_name distinct]
  cases members.lookup first <;> cases members.lookup second <;>
    simp [fieldSlot?, Slot.ofOption]

end Slots

def isNull : Tree → Bool
  | null => true
  | _ => false

/-- The members that are not `null`, each changed. -/
def presentMembers (change : String → Tree → Tree) (members : List (String × Tree)) :
    List (String × Tree) :=
  (members.filter fun entry => !entry.2.isNull).map fun (key, tree) => (key, change key tree)

/-- An object without its members that are `null`, the others being changed. -/
def withoutNulls (change : String → Tree → Tree) : Tree → Tree
  | object members => object (presentMembers change members)
  | tree => tree

def dropNulls : Tree → Tree := withoutNulls fun _ tree => tree

/-- An array with its items changed. -/
def mapItems (change : Tree → Tree) : Tree → Tree
  | array items => array (items.map change)
  | tree => tree

/-- An object has members of both names. -/
def HasBoth (first second : String) (tree : Tree) : Prop :=
  (tree.member? first).isSome ∧ (tree.member? second).isSome

section Members

variable (change : String → Tree → Tree) {members : List (String × Tree)}

theorem distinct_presentMembers (distinct : (members.map Prod.fst).Nodup) :
    ((presentMembers change members).map Prod.fst).Nodup := by
  rw [presentMembers, List.map_map]
  exact distinct.sublist (List.filter_sublist.map Prod.fst)

theorem lookup_presentMembers (distinct : (members.map Prod.fst).Nodup) (key : String) :
    (presentMembers change members).lookup key =
      ((members.lookup key).filter fun tree => !tree.isNull).map (change key) := by
  rw [presentMembers, lookup_map_value,
    lookup_filter_value (fun tree : Tree => !tree.isNull) distinct]

theorem fieldSlot?_one_present (distinct : (members.map Prod.fst).Nodup) (name : String) :
    fieldSlot? (presentMembers change members) [name] = some (Slot.ofOption
      (((members.lookup name).filter fun tree => !tree.isNull).map (change name))) := by
  rw [fieldSlot?_one (distinct_presentMembers change distinct),
    lookup_presentMembers change distinct]

section Once

variable (distinct : (members.map Prod.fst).Nodup) {first second : String}
  (alike : change first = change second)
  (once : ¬((members.lookup first).isSome ∧ (members.lookup second).isSome))
include distinct alike once

/-- Where only one of the names is there, it makes no difference which. -/
theorem lookup_or_presentMembers :
    ((presentMembers change members).lookup first).or
      ((presentMembers change members).lookup second) =
    (((members.lookup first).or (members.lookup second)).filter fun tree => !tree.isNull).map
      (change first) := by
  rw [lookup_presentMembers change distinct, lookup_presentMembers change distinct, alike]
  cases found : members.lookup first with
  | none => simp
  | some tree =>
    cases other : members.lookup second with
    | none => simp
    | some => simp [found, other] at once

theorem fieldSlot?_two_present (different : first ≠ second) :
    fieldSlot? (presentMembers change members) [first, second] = some (Slot.ofOption
      ((((members.lookup first).or (members.lookup second)).filter fun tree => !tree.isNull).map
        (change first))) := by
  rw [fieldSlot?_two (distinct_presentMembers change distinct) different,
    lookup_or_presentMembers change distinct alike once, if_neg]
  rw [lookup_presentMembers change distinct, lookup_presentMembers change distinct]
  rintro ⟨here, there⟩
  simp only [Option.isSome_map] at here there
  exact once ⟨Option.isSome_of_isSome_filter _ _ here, Option.isSome_of_isSome_filter _ _ there⟩

end Once

theorem Canonical.distinct (canonical : (object members).Canonical) :
    (members.map Prod.fst).Nodup :=
  nodup_of_ascending (List.pairwise_map.mpr canonical.1)

theorem Canonical.of_lookup (canonical : (object members).Canonical) {key : String} {tree : Tree}
    (found : members.lookup key = some tree) : tree.Canonical := by
  obtain ⟨before, after, split, -⟩ := List.lookup_eq_some_iff.mp found
  refine (canonicalMembers_iff members).mp canonical.2 (key, tree) ?_
  rw [split]
  exact List.mem_append_right _ List.mem_cons_self

end Members

theorem Canonical.of_isPart {tree part : Tree} (canonical : tree.Canonical)
    (isPart : part.IsPart tree) : part.Canonical := by
  cases tree with
  | array items => exact (canonicalItems_iff items).mp canonical part isPart
  | object members =>
    obtain ⟨key, present⟩ := isPart
    exact (canonicalMembers_iff members).mp canonical.2 (key, part) present
  | _ => exact isPart.elim

theorem Canonical.withoutNulls {change : String → Tree → Tree}
    (kept : ∀ key tree, tree.Canonical → (change key tree).Canonical) {tree : Tree}
    (canonical : tree.Canonical) : (tree.withoutNulls change).Canonical := by
  cases tree with
  | object members =>
    refine ⟨List.pairwise_map.mpr (canonical.1.sublist List.filter_sublist),
      (canonicalMembers_iff _).mpr fun entry member => ?_⟩
    obtain ⟨⟨key, tree⟩, present, rfl⟩ := List.mem_map.mp member
    exact kept key tree ((canonicalMembers_iff members).mp canonical.2 (key, tree)
      (List.mem_of_mem_filter present))
  | _ => exact canonical

theorem Canonical.dropNulls {tree : Tree} (canonical : tree.Canonical) :
    tree.dropNulls.Canonical :=
  canonical.withoutNulls fun _ _ inner => inner

theorem Canonical.mapItems {change : Tree → Tree}
    (kept : ∀ tree, tree.Canonical → (change tree).Canonical) {tree : Tree}
    (canonical : tree.Canonical) : (tree.mapItems change).Canonical := by
  cases tree with
  | array items =>
    refine (canonicalItems_iff _).mpr fun changed member => ?_
    obtain ⟨item, present, rfl⟩ := List.mem_map.mp member
    exact kept item ((canonicalItems_iff items).mp canonical item present)
  | _ => exact canonical

theorem mapM_congr {α β : Type} {read other : α → Option β} {items : List α}
    (same : ∀ item ∈ items, read item = other item) : items.mapM read = items.mapM other := by
  induction items with
  | nil => rfl
  | cons item rest ih =>
    rw [List.mapM_cons, List.mapM_cons, same item List.mem_cons_self,
      ih fun item member => same item (List.mem_cons_of_mem _ member)]

theorem list?_mapItems {α : Type} {read : Tree → Option α} {change : Tree → Tree} {tree : Tree}
    (kept : ∀ item, item.IsPart tree → read (change item) = read item) :
    (tree.mapItems change).list? read = tree.list? read := by
  cases tree with
  | array items =>
    simp only [mapItems, list?, List.mapM_map]
    exact mapM_congr kept
  | _ => rfl

theorem mapM_eq_none_of_mem {α β : Type} {read : α → Option β} {items : List α} {item : α}
    (member : item ∈ items) (refused : read item = none) : items.mapM read = none := by
  induction items with
  | nil => exact absurd member List.not_mem_nil
  | cons first rest ih =>
    rw [List.mapM_cons]
    rcases List.mem_cons.mp member with rfl | member
    · rw [refused]
      rfl
    · rw [ih member]
      cases read first <;> rfl

theorem mapItems_isNull (change : Tree → Tree) (tree : Tree) :
    (tree.mapItems change).isNull = tree.isNull := by
  cases tree <;> rfl

theorem withoutNulls_isNull (change : String → Tree → Tree) (tree : Tree) :
    (tree.withoutNulls change).isNull = tree.isNull := by
  cases tree <;> rfl

end Tree

namespace Slot

variable {α : Type} {read : Tree → Option α} (default : α) (given : Option Tree)

/-- A field that may be left out does not tell `null` from no member. -/
theorem optional_present :
    (ofOption (given.filter fun tree => !tree.isNull)).optional read =
      (ofOption given).optional read := by
  rcases given with _ | tree
  · rfl
  · cases tree <;> rfl

theorem nullAsDefault_present :
    (ofOption (given.filter fun tree => !tree.isNull)).nullAsDefault read default =
      (ofOption given).nullAsDefault read default := by
  rcases given with _ | tree
  · rfl
  · cases tree <;> rfl

variable {change : Tree → Tree}
  (kept : ∀ tree, given = some tree → read (change tree) = read tree)
include kept

/-- A field that must be given is read as before if it cannot be `null`. -/
theorem required_changed (refused : read .null = none) :
    (ofOption ((given.filter fun tree => !tree.isNull).map change)).required read =
      (ofOption given).required read := by
  rcases given with _ | tree
  · rfl
  · cases null : tree.isNull with
    | true => cases tree <;> first | exact refused.symm | cases null
    | false =>
      rw [Option.filter_some_pos (by rw [null]; rfl)]
      exact kept tree rfl

theorem nullAsDefault_changed (solid : ∀ tree, (change tree).isNull = tree.isNull) :
    (ofOption ((given.filter fun tree => !tree.isNull).map change)).nullAsDefault read default =
      (ofOption given).nullAsDefault read default := by
  have reads : ∀ tree : Tree, tree.isNull = false →
      (Slot.given tree).nullAsDefault read default = read tree := by
    intro tree other
    cases tree <;> first | rfl | cases other
  rcases given with _ | tree
  · rfl
  · cases null : tree.isNull with
    | true => cases tree <;> first | rfl | cases null
    | false =>
      rw [Option.filter_some_pos (by rw [null]; rfl), Option.map_some, ofOption, ofOption,
        reads _ ((solid tree).trans null), reads _ null]
      exact kept tree rfl

end Slot

namespace SavedEdge

theorem ofTree?_dropNulls {tree : Tree} (canonical : tree.Canonical) :
    ofTree? tree.dropNulls = ofTree? tree := by
  cases tree with
  | object members =>
    have distinct := canonical.distinct
    simp only [Tree.dropNulls, Tree.withoutNulls, ofTree?, Tree.slots?, List.mapM_cons,
      List.mapM_nil, Tree.fieldSlot?_one distinct, Tree.fieldSlot?_one_present _ distinct,
      Option.map_id', Option.bind_eq_bind, Option.bind_some, Option.pure_def,
      Slot.optional_present, Slot.nullAsDefault_present]
  | _ => rfl

end SavedEdge

namespace SavedNode

/-- What becomes of a member of a node. -/
def memberWithoutNulls (key : String) : Tree → Tree :=
  if key = "data" then Tree.dropNulls else fun tree => tree

/-- A node without its members that are `null`, nor those of its data. -/
def withoutNulls : Tree → Tree := Tree.withoutNulls memberWithoutNulls

theorem canonical_withoutNulls {tree : Tree} (canonical : tree.Canonical) :
    (withoutNulls tree).Canonical := by
  refine canonical.withoutNulls fun key tree inner => ?_
  unfold memberWithoutNulls
  split
  · exact inner.dropNulls
  · exact inner

/-- The kind stands under both of its names. -/
def NamesKindTwice (tree : Tree) : Prop := tree.HasBoth "kind" "type"

theorem dataOfTree?_dropNulls {tree : Tree} (canonical : tree.Canonical) :
    dataOfTree? tree.dropNulls = dataOfTree? tree := by
  cases tree with
  | object members =>
    have distinct := canonical.distinct
    simp only [Tree.dropNulls, Tree.withoutNulls, dataOfTree?, Tree.slots?, List.mapM_cons,
      List.mapM_nil, Tree.fieldSlot?_one distinct, Tree.fieldSlot?_one_present _ distinct,
      Option.map_id', Option.bind_eq_bind, Option.bind_some, Option.pure_def,
      Slot.nullAsDefault_present]
  | _ => rfl

theorem ofTree?_twice {tree : Tree} (canonical : tree.Canonical) (twice : NamesKindTwice tree) :
    ofTree? tree = none := by
  cases tree with
  | object members =>
    have both : (members.lookup "kind").isSome ∧ (members.lookup "type").isSome := twice
    simp [ofTree?, Tree.slots?, Tree.fieldSlot?_one canonical.distinct,
      Tree.fieldSlot?_two canonical.distinct, both]
  | _ => exact absurd twice.1 Bool.false_ne_true

theorem ofTree?_withoutNulls {tree : Tree} (canonical : tree.Canonical)
    (once : ¬NamesKindTwice tree) : ofTree? (withoutNulls tree) = ofTree? tree := by
  cases tree with
  | object members =>
    -- The kind is the one field of two names, and the data the one with members of its own.
    have distinct := canonical.distinct
    have different : "kind" ≠ "type" := by decide
    have one : ¬((members.lookup "kind").isSome ∧ (members.lookup "type").isSome) := once
    have alike : memberWithoutNulls "kind" = memberWithoutNulls "type" := rfl
    have kind := Tree.fieldSlot?_two_present memberWithoutNulls distinct alike one different
    have data : ∀ tree, members.lookup "data" = some tree →
        dataOfTree? tree.dropNulls = dataOfTree? tree :=
      fun tree found => dataOfTree?_dropNulls (canonical.of_lookup found)
    simp only [withoutNulls, Tree.withoutNulls, ofTree?, Tree.slots?, List.mapM_cons,
      List.mapM_nil, Tree.fieldSlot?_one distinct, Tree.fieldSlot?_one_present _ distinct,
      Tree.fieldSlot?_two distinct different, if_neg one, kind, memberWithoutNulls,
      String.reduceEq, if_false, if_true, Option.map_id', Option.bind_eq_bind,
      Option.bind_some, Option.pure_def, Slot.optional_present, Slot.nullAsDefault_present]
    rw [Slot.nullAsDefault_changed _ _ data (Tree.withoutNulls_isNull _)]
  | _ => rfl

end SavedNode

namespace SavedGraph

/-- What becomes of a member of a graph. -/
def memberWithoutNulls (key : String) : Tree → Tree :=
  if key = "nodes" then Tree.mapItems SavedNode.withoutNulls
  else if key = "edges" then Tree.mapItems Tree.dropNulls
  else fun tree => tree

/-- A graph without its members that are `null`, nor those of its nodes and edges. -/
def withoutNulls : Tree → Tree := Tree.withoutNulls memberWithoutNulls

theorem canonical_withoutNulls {tree : Tree} (canonical : tree.Canonical) :
    (withoutNulls tree).Canonical := by
  refine canonical.withoutNulls fun key tree inner => ?_
  unfold memberWithoutNulls
  split
  · exact inner.mapItems fun _ => SavedNode.canonical_withoutNulls
  · split
    · exact inner.mapItems fun _ node => node.dropNulls
    · exact inner

/-- The kind of some node stands under both of its names. -/
def NamesKindTwice (tree : Tree) : Prop :=
  ∃ items, tree.member? "nodes" = some (.array items) ∧
    ∃ item ∈ items, SavedNode.NamesKindTwice item

theorem ofTree?_twice {tree : Tree} (canonical : tree.Canonical) (twice : NamesKindTwice tree) :
    ofTree? tree = none := by
  obtain ⟨items, nodes, item, member, twice⟩ := twice
  cases tree with
  | object members =>
    have found : members.lookup "nodes" = some (.array items) := nodes
    have refused : (Tree.array items).list? SavedNode.ofTree? = none :=
      Tree.mapM_eq_none_of_mem member (SavedNode.ofTree?_twice
        ((Tree.canonicalItems_iff items).mp (canonical.of_lookup found) item member) twice)
    simp [ofTree?, Tree.slots?, Tree.fieldSlot?_one canonical.distinct, found, Slot.ofOption,
      Slot.required, refused]
  | _ => cases nodes

theorem ofTree?_withoutNulls {tree : Tree} (canonical : tree.Canonical)
    (once : ¬NamesKindTwice tree) : ofTree? (withoutNulls tree) = ofTree? tree := by
  cases tree with
  | object members =>
    have distinct := canonical.distinct
    have nodes : ∀ tree, members.lookup "nodes" = some tree →
        (tree.mapItems SavedNode.withoutNulls).list? SavedNode.ofTree? =
          tree.list? SavedNode.ofTree? := by
      intro tree found
      cases tree with
      | array items =>
        refine Tree.list?_mapItems fun item member => SavedNode.ofTree?_withoutNulls ?_ ?_
        · exact (canonical.of_lookup found).of_isPart member
        · exact fun twice => once ⟨items, found, item, member, twice⟩
      | _ => rfl
    have edges : ∀ tree, members.lookup "edges" = some tree →
        (tree.mapItems Tree.dropNulls).list? SavedEdge.ofTree? =
          tree.list? SavedEdge.ofTree? := fun tree found =>
      Tree.list?_mapItems fun item isPart =>
        SavedEdge.ofTree?_dropNulls ((canonical.of_lookup found).of_isPart isPart)
    simp only [withoutNulls, Tree.withoutNulls, ofTree?, Tree.slots?, List.mapM_cons,
      List.mapM_nil, Tree.fieldSlot?_one distinct, Tree.fieldSlot?_one_present _ distinct,
      memberWithoutNulls, String.reduceEq, if_false, if_true, Option.bind_eq_bind,
      Option.bind_some, Option.pure_def]
    rw [Slot.required_changed _ nodes rfl,
      Slot.nullAsDefault_changed _ _ edges (Tree.mapItems_isNull _)]
  | _ => rfl

theorem member?_nodes_withoutNulls {tree : Tree} (canonical : tree.Canonical) :
    (∃ items, (withoutNulls tree).member? "nodes" = some (.array items)) ↔
      ∃ items, tree.member? "nodes" = some (.array items) := by
  cases tree with
  | object members =>
    have nodes : (withoutNulls (.object members)).member? "nodes" =
        ((members.lookup "nodes").filter fun tree => !tree.isNull).map
          (Tree.mapItems SavedNode.withoutNulls) :=
      Tree.lookup_presentMembers memberWithoutNulls canonical.distinct "nodes"
    have before : (Tree.object members).member? "nodes" = members.lookup "nodes" := rfl
    rw [nodes, before]
    rcases members.lookup "nodes" with _ | tree
    · rfl
    · cases tree <;> simp [Tree.isNull, Tree.mapItems]
  | _ => rfl

end SavedGraph

namespace Document

/-- What becomes of a member of a document. -/
def memberWithoutNulls (key : String) : Tree → Tree :=
  if key = "graph" ∨ key = "strategy_graph" then SavedGraph.withoutNulls else fun tree => tree

/-- A document without its members that are `null`, nor those of its graph. -/
def withoutNulls : Tree → Tree := Tree.withoutNulls memberWithoutNulls

theorem canonical_withoutNulls {tree : Tree} (canonical : tree.Canonical) :
    (withoutNulls tree).Canonical := by
  refine canonical.withoutNulls fun key tree inner => ?_
  unfold memberWithoutNulls
  split
  · exact SavedGraph.canonical_withoutNulls inner
  · exact inner

/-- The value of a document without its members that are `null`. -/
def bareValue (value : Json) : Json :=
  ⟨withoutNulls value.tree, canonical_withoutNulls value.canonical⟩

theorem canonical_of_graphMember? {tree graph : Tree} (canonical : tree.Canonical)
    (found : graphMember? tree = some graph) : graph.Canonical := by
  cases tree with
  | object members =>
    rcases Option.or_eq_some_iff.mp found with found | ⟨-, found⟩ <;>
      exact canonical.of_lookup found
  | _ => cases found

/-- The graph stands under both of its names, or the kind of some node does. -/
def NamesTwice (tree : Tree) : Prop :=
  tree.HasBoth "graph" "strategy_graph" ∨
    ∃ graph, graphMember? tree = some graph ∧ SavedGraph.NamesKindTwice graph

theorem ofTree?_twice {tree : Tree} (canonical : tree.Canonical) (twice : NamesTwice tree) :
    ofTree? tree = none := by
  cases tree with
  | object members =>
    have distinct := canonical.distinct
    have different : "graph" ≠ "strategy_graph" := by decide
    simp only [ofTree?, Tree.slots?, List.mapM_cons, List.mapM_nil,
      Tree.fieldSlot?_one distinct, Tree.fieldSlot?_two distinct different]
    -- With both names there is no graph to read; with one it is the graph that is refused.
    by_cases both : (members.lookup "graph").isSome ∧ (members.lookup "strategy_graph").isSome
    · simp [both]
    · obtain ⟨graph, found, twice⟩ := twice.resolve_left both
      have refused : SavedGraph.ofTree? graph = none :=
        SavedGraph.ofTree?_twice (canonical_of_graphMember? canonical found) twice
      have found : (members.lookup "graph").or (members.lookup "strategy_graph") = some graph :=
        found
      simp only [if_neg both, found, Option.bind_eq_bind, Option.bind_some, Option.pure_def]
      simp [Slot.ofOption, Slot.required, refused]
  | _ =>
    rcases twice with ⟨here, -⟩ | ⟨graph, found, -⟩
    · exact absurd here Bool.false_ne_true
    · cases found

theorem ofTree?_withoutNulls {tree : Tree} (canonical : tree.Canonical)
    (once : ¬NamesTwice tree) : ofTree? (withoutNulls tree) = ofTree? tree := by
  cases tree with
  | object members =>
    have distinct := canonical.distinct
    have different : "graph" ≠ "strategy_graph" := by decide
    have one : ¬((members.lookup "graph").isSome ∧ (members.lookup "strategy_graph").isSome) :=
      fun both => once (.inl both)
    have alike : memberWithoutNulls "graph" = memberWithoutNulls "strategy_graph" := rfl
    have slot := Tree.fieldSlot?_two_present memberWithoutNulls distinct alike one different
    have graph : ∀ tree,
        (members.lookup "graph").or (members.lookup "strategy_graph") = some tree →
          SavedGraph.ofTree? (SavedGraph.withoutNulls tree) = SavedGraph.ofTree? tree := by
      intro tree found
      exact SavedGraph.ofTree?_withoutNulls (canonical_of_graphMember? canonical found)
        fun twice => once (.inr ⟨tree, found, twice⟩)
    simp only [withoutNulls, Tree.withoutNulls, ofTree?, Tree.slots?, List.mapM_cons,
      List.mapM_nil, Tree.fieldSlot?_one distinct, Tree.fieldSlot?_one_present _ distinct,
      Tree.fieldSlot?_two distinct different, if_neg one, slot, memberWithoutNulls,
      String.reduceEq, or_self, or_false, if_false, if_true, Option.map_id', Option.bind_eq_bind,
      Option.bind_some, Option.pure_def, Slot.optional_present, Slot.nullAsDefault_present]
    rw [Slot.required_changed _ graph rfl]
  | _ => rfl

/-- A list of nodes is there with the members that are `null` just when it is there without. -/
theorem listsNodes_withoutNulls_iff {tree : Tree} (canonical : tree.Canonical)
    (once : ¬NamesTwice tree) : ListsNodes (withoutNulls tree) ↔ ListsNodes tree := by
  cases tree with
  | object members =>
    have graphs : graphMember? (withoutNulls (.object members)) =
        ((graphMember? (.object members)).filter fun tree => !tree.isNull).map
          SavedGraph.withoutNulls :=
      Tree.lookup_or_presentMembers memberWithoutNulls canonical.distinct rfl
        (not_or.mp once).1
    unfold ListsNodes
    rw [graphs]
    cases found : graphMember? (.object members) with
    | none => simp
    | some graph =>
      have nodes := SavedGraph.member?_nodes_withoutNulls
        (canonical_of_graphMember? canonical found)
      -- A graph that is `null` has no nodes, so it may as well be missing.
      by_cases null : graph = .null
      · subst null
        simp [Tree.isNull, Tree.member?]
      · have present : graph.isNull = false := by
          cases graph <;> first | rfl | exact absurd rfl null
        rw [Option.filter_some_pos (by rw [present]; rfl)]
        simpa using nodes
  | _ => rfl

/-- Members that are `null` keep a document from being read only where they are a second name,
and otherwise make no difference to it. -/
theorem ofValue_iff (value : Json) (document : Document) :
    ofValue value = .ok document ↔
      ¬NamesTwice value.tree ∧ ofValue (bareValue value) = .ok document := by
  rw [ofValue_eq_ok_iff, ofValue_eq_ok_iff]
  by_cases twice : NamesTwice value.tree
  · simp [ofTree?_twice value.canonical twice, twice]
  · rw [bareValue, listsNodes_withoutNulls_iff value.canonical twice,
      ofTree?_withoutNulls value.canonical twice]
    simp [twice]

/-- A text is a document just when no name in it stands twice, as such or as its other name, and
the text without its members that are `null` is that document.

A `null` is then no different from a member that is not there, except that it counts as a name. -/
theorem parse_bare_iff (value : Json) {text bare : String}
    (given : Json.ofText? text = some value)
    (stripped : Json.ofText? bare = some (bareValue value)) (document : Document) :
    parse text = .ok document ↔ ¬NamesTwice value.tree ∧ parse bare = .ok document := by
  rw [parse, parse, given, stripped]
  exact ofValue_iff value document

/-- A node with its kind under the older name may have `null` for a position, but not under the
present name of the kind. -/
theorem parse_bare_kind_null :
    let tree (key : String) : Tree := .object [("graph", .object [("nodes",
      .array [.object [("id", .string "a"), (key, .null), ("type", .string "rsi")]])])]
    ∃ placeless kindless : Json,
      placeless.tree = tree "position" ∧ kindless.tree = tree "kind" ∧
      bareValue kindless = bareValue placeless ∧
      (∃ document, parse placeless.compact = .ok document ∧
        parse (bareValue kindless).compact = .ok document) ∧
      ∀ document, parse kindless.compact ≠ .ok document := by
  intro tree
  have canonical : ∀ key, ["id", key, "type"].Pairwise (· < ·) → (tree key).Canonical := by
    intro key ordered
    have node : Ascending [("id", Tree.string "a"), (key, .null), ("type", .string "rsi")] :=
      List.pairwise_map.mp ordered
    exact ⟨List.pairwise_singleton _ _, ⟨List.pairwise_singleton _ _,
      ⟨⟨node, trivial, trivial, trivial, trivial⟩, trivial⟩, trivial⟩, trivial⟩
  have fits : ∀ key, (tree key).depth ≤ Tree.depthLimit ∧ (tree key).Plain :=
    fun key => ⟨(by decide : 4 ≤ Tree.depthLimit), by
      simp [tree, Tree.Plain, Tree.PlainItems, Tree.PlainMembers, Json.isEmbedding,
        Json.embeddingKey]⟩
  have bareFits : (withoutNulls (tree "kind")).depth ≤ Tree.depthLimit ∧
      (withoutNulls (tree "kind")).Plain := by decide
  let placeless : Json := ⟨tree "position", canonical _ (by decide)⟩
  let kindless : Json := ⟨tree "kind", canonical _ (by decide)⟩
  have given : Json.ofText? placeless.compact = some placeless :=
    Json.ofText?_compact (fits "position")
  have doubled : Json.ofText? kindless.compact = some kindless :=
    Json.ofText?_compact (fits "kind")
  have bare : Json.ofText? (bareValue kindless).compact = some (bareValue kindless) :=
    Json.ofText?_compact bareFits
  have same : bareValue kindless = bareValue placeless := Json.ext rfl
  refine ⟨placeless, kindless, rfl, rfl, same, ?_, fun document found => ?_⟩
  · obtain ⟨document, accepted⟩ : ∃ document, ofValue placeless = .ok document := ⟨_, rfl⟩
    have read : parse placeless.compact = .ok document := by rw [parse, given]; exact accepted
    exact ⟨document, read, ((parse_bare_iff placeless given (same ▸ bare) document).mp read).2⟩
  · have twice : NamesTwice kindless.tree :=
      .inr ⟨_, rfl, _, rfl, _, List.mem_cons_self, rfl, rfl⟩
    exact ((parse_bare_iff kindless doubled bare document).mp found).1 twice

end Document

end SignalGraph
