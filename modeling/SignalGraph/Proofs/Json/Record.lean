import Mathlib.Data.List.Forall2
import SignalGraph.Proofs.Json.Embedding
import SignalGraph.Proofs.Json.Text

/-! Records read from a text straight, and by way of a value.

A value holds its members in the order of their keys. To a record this makes no difference: a field
finds its member wherever it stands. What differs is whether an object that begins with the reserved
key is looked at as an embedding.
-/

set_option autoImplicit false

namespace SignalGraph

/-- How a tree comes to a record: as it stands, or as a value, with a reader of embedded texts. -/
inductive Reading where
  | straight
  | valued (embedded? : String → Option Json)

/-! ## Members in another order -/

section Order

variable {α : Type} {first second : List (String × α)}

theorem insertEntry_perm {key : String} {value : α} {entries : List (String × α)}
    (new : key ∉ entries.map Prod.fst) :
    (insertEntry key value entries).Perm ((key, value) :: entries) := by
  induction entries with
  | nil => exact .refl _
  | cons entry rest ih =>
    rw [List.map_cons, List.mem_cons, not_or] at new
    obtain ⟨other, later⟩ := new
    unfold insertEntry
    split
    · exact .refl _
    · exact ((ih later).cons entry).trans (.swap _ _ _)

theorem KeyMap.insertAll_perm (map : KeyMap α) {entries : List (String × α)}
    (distinct : ((map.entries ++ entries).map Prod.fst).Nodup) :
    (map.insertAll entries).entries.Perm (map.entries ++ entries) := by
  induction entries generalizing map with
  | nil => exact .of_eq (List.append_nil _).symm
  | cons entry rest ih =>
    have step : map.insertAll (entry :: rest) = (map.insert entry.1 entry.2).insertAll rest := rfl
    have front : (map.entries ++ entry :: rest).Perm (entry :: map.entries ++ rest) :=
      List.perm_middle
    have new : entry.1 ∉ map.entries.map Prod.fst := by
      have apart := (front.map Prod.fst).nodup_iff.mp distinct
      simp only [List.cons_append, List.map_cons, List.map_append, List.nodup_cons] at apart
      exact fun member => apart.1 (List.mem_append_left _ member)
    have inserted : ((map.insert entry.1 entry.2).entries ++ rest).Perm
        (entry :: map.entries ++ rest) := (insertEntry_perm new).append_right rest
    have later := (inserted.trans front.symm).map Prod.fst
    exact step ▸ (ih _ (later.nodup_iff.mpr distinct)).trans (inserted.trans front.symm)

theorem KeyMap.ofList_perm {entries : List (String × α)}
    (distinct : (entries.map Prod.fst).Nodup) : (ofList entries).entries.Perm entries :=
  KeyMap.empty.insertAll_perm distinct

theorem lookup_eq_some_of_distinct {entries : List (String × α)}
    (distinct : (entries.map Prod.fst).Nodup) {entry : String × α} (member : entry ∈ entries) :
    entries.lookup entry.1 = some entry.2 := by
  obtain ⟨before, after, rfl⟩ := List.append_of_mem member
  refine List.lookup_eq_some_iff.mpr ⟨before, after, rfl, fun other earlier => ?_⟩
  rw [List.map_append, List.map_cons] at distinct
  have apart := (List.pairwise_append.mp distinct).2.2 other.1 (List.mem_map_of_mem earlier) entry.1
    List.mem_cons_self
  simpa using Ne.symm apart

end Order

namespace Tree

variable {first second : List (String × Tree)}

theorem fieldSlot?_perm (moved : first.Perm second) (names : List String) :
    fieldSlot? first names = fieldSlot? second names := by
  have named := moved.filter fun entry => names.contains entry.1
  unfold fieldSlot?
  generalize first.filter _ = chosen at named
  generalize second.filter _ = others at named
  match chosen, others, named with
  | [], others, named => rw [List.Perm.eq_nil named.symm]
  | [entry], others, named => rw [List.Perm.eq_singleton named.symm]
  | _ :: _ :: _, [], named => exact absurd named.eq_nil nofun
  | _ :: _ :: _, [_], named => exact absurd named.eq_singleton nofun
  | _ :: _ :: _, _ :: _ :: _, named => rfl

theorem slots?_perm (moved : first.Perm second) (fields : List (List String)) :
    slots? fields (object first) = slots? fields (object second) := by
  have same : fieldSlot? first = fieldSlot? second := funext (fieldSlot?_perm moved)
  rw [slots?, slots?, same]

/-- What is read of an object does not depend on the order of its members. -/
def Orderless {α : Type} (read : Tree → Option α) : Prop :=
  ∀ first second, first.Perm second → read (object first) = read (object second)

/-- A record looks at nothing but what its fields are given. -/
theorem Orderless.of_slots {α : Type} {read : Tree → Option α} {fields : List (List String)}
    {next : List Slot → Option α} (record : ∀ tree, read tree = (tree.slots? fields).bind next) :
    Orderless read := by
  intro first second moved
  rw [record, record, slots?_perm moved]

end Tree

namespace Reading

variable {reading : Reading}

/-- The values of embedded texts, if any are read, weigh no more than their texts. -/
def Modest : Reading → Prop
  | straight => True
  | valued embedded? => Json.Modest embedded?

/-- What a record is read from. -/
def hand? : Reading → Tree → Option Tree
  | straight, tree => some tree
  | valued embedded?, tree => (Json.denoted? embedded? tree).map Json.tree

def handMembers? (reading : Reading) : List (String × Tree) → Option (List (String × Tree))
  | [] => some []
  | (key, value) :: rest => do
    return (key, ← reading.hand? value) :: (← reading.handMembers? rest)

/-- The order in which a record finds the members of an object. -/
def arrange : Reading → List (String × Tree) → List (String × Tree)
  | straight, members => members
  | valued _, members => (KeyMap.ofList members).entries

theorem hand?_null : reading.hand? .null = some .null := by cases reading <;> rfl

theorem hand?_bool (value : Bool) : reading.hand? (.bool value) = some (.bool value) := by
  cases reading <;> rfl

theorem hand?_string (text : String) : reading.hand? (.string text) = some (.string text) := by
  cases reading <;> rfl

theorem hand?_float {x : Binary64} (finite : x.IsFinite) :
    reading.hand? (.float x) = some (.float x) := by
  cases reading with
  | straight => rfl
  | valued embedded? => simp [hand?, Json.denoted?, finite]

theorem mapM_hand?_straight (items : List Tree) : items.mapM straight.hand? = some items := by
  induction items with
  | nil => rfl
  | cons item rest ih => simp [ih, hand?]

theorem handMembers?_straight (members : List (String × Tree)) :
    straight.handMembers? members = some members := by
  induction members with
  | nil => rfl
  | cons entry rest ih => simp [handMembers?, ih, hand?]

section Valued

variable {embedded? : String → Option Json}

theorem mapM_hand?_valued (items : List Tree) :
    items.mapM (valued embedded?).hand? =
      (Json.denotedItems? embedded? items).map (List.map Json.tree) := by
  induction items with
  | nil => rfl
  | cons item rest ih =>
    rw [List.mapM_cons, ih, Json.denotedItems?, hand?]
    cases Json.denoted? embedded? item with
    | none => rfl
    | some value => cases Json.denotedItems? embedded? rest <;> rfl

theorem handMembers?_valued (members : List (String × Tree)) :
    (valued embedded?).handMembers? members =
      (Json.denotedMembers? embedded? members).map Json.memberTrees := by
  induction members with
  | nil => rfl
  | cons entry rest ih =>
    rw [handMembers?, ih, Json.denotedMembers?, hand?]
    cases Json.denoted? embedded? entry.2 with
    | none => rfl
    | some value => cases Json.denotedMembers? embedded? rest <;> rfl

end Valued

theorem hand?_array (items : List Tree) :
    reading.hand? (.array items) = (items.mapM reading.hand?).map .array := by
  cases reading with
  | straight => rw [mapM_hand?_straight]; rfl
  | valued embedded? =>
    rw [mapM_hand?_valued, hand?, Json.denoted?]
    cases Json.denotedItems? embedded? items <;> rfl

theorem hand?_object {members : List (String × Tree)} (other : Json.isEmbedding members = false) :
    reading.hand? (.object members) =
      (reading.handMembers? members).map fun members => .object (reading.arrange members) := by
  cases reading with
  | straight => rw [handMembers?_straight]; rfl
  | valued embedded? =>
    rw [handMembers?_valued, hand?, Json.denoted?_object other]
    cases Json.denotedMembers? embedded? members with
    | none => rfl
    | some entries => exact congrArg some (Json.object_ofList entries)

theorem handMembers?_append (first second : List (String × Tree)) :
    reading.handMembers? (first ++ second) = (reading.handMembers? first).bind fun first =>
      (reading.handMembers? second).bind fun second => some (first ++ second) := by
  induction first with
  | nil =>
    rw [List.nil_append]
    cases reading.handMembers? second <;> rfl
  | cons entry rest ih => simp [handMembers?, ih, Option.bind_assoc]

theorem handMembers?_optionalMember (key : String) (text : Option String) :
    reading.handMembers? (Tree.optionalMember key .string text) =
      some (Tree.optionalMember key .string text) := by
  cases text with
  | none => rfl
  | some text => simp [Tree.optionalMember, handMembers?, hand?_string]

theorem keys_handMembers? {members handed : List (String × Tree)}
    (found : reading.handMembers? members = some handed) :
    handed.map Prod.fst = members.map Prod.fst := by
  induction members generalizing handed with
  | nil => cases found; rfl
  | cons entry rest ih =>
    obtain ⟨value, -, more⟩ := Option.bind_eq_some_iff.mp found
    obtain ⟨others, next, same⟩ := Option.bind_eq_some_iff.mp more
    cases same
    rw [List.map_cons, List.map_cons, ih next]

theorem arrange_perm (reading : Reading) {members : List (String × Tree)}
    (distinct : (members.map Prod.fst).Nodup) : (reading.arrange members).Perm members := by
  cases reading with
  | straight => exact .refl _
  | valued embedded? => exact KeyMap.ofList_perm distinct

theorem mem_handMembers? {members handed : List (String × Tree)} {key : String} {tree : Tree}
    (found : reading.handMembers? members = some handed) (member : (key, tree) ∈ members) :
    ∃ value, reading.hand? tree = some value ∧ (key, value) ∈ handed := by
  induction members generalizing handed with
  | nil => exact absurd member List.not_mem_nil
  | cons entry rest ih =>
    obtain ⟨value, first, more⟩ := Option.bind_eq_some_iff.mp found
    obtain ⟨others, next, same⟩ := Option.bind_eq_some_iff.mp more
    cases same
    rcases List.mem_cons.mp member with rfl | member
    · exact ⟨value, first, List.mem_cons_self⟩
    · obtain ⟨later, read, present⟩ := ih next member
      exact ⟨later, read, List.mem_cons_of_mem _ present⟩

theorem member?_hand? {members : List (String × Tree)} {key : String} {tree handed : Tree}
    (other : Json.isEmbedding members = false) (distinct : (members.map Prod.fst).Nodup)
    (found : reading.hand? (.object members) = some handed) (member : (key, tree) ∈ members) :
    ∃ value, reading.hand? tree = some value ∧ handed.member? key = some value := by
  rw [hand?_object other] at found
  obtain ⟨values, inside, rfl⟩ := Option.map_eq_some_iff.mp found
  obtain ⟨value, read, present⟩ := mem_handMembers? inside member
  rw [← keys_handMembers? inside] at distinct
  have moved := arrange_perm reading distinct
  refine ⟨value, read, lookup_eq_some_of_distinct ?_ (moved.mem_iff.mpr present)⟩
  exact (moved.map Prod.fst).nodup_iff.mpr distinct

/-- A record takes its fields from the members as they were handed over. -/
theorem hand?_record {β : Type} {read : Tree → Option β} {members : List (String × Tree)}
    (orderless : Tree.Orderless read) (other : Json.isEmbedding members = false)
    (distinct : (members.map Prod.fst).Nodup) :
    (reading.hand? (.object members)).bind read =
      (reading.handMembers? members).bind fun members => read (.object members) := by
  rw [hand?_object other, Option.bind_map]
  cases found : reading.handMembers? members with
  | none => rfl
  | some handed =>
    refine orderless _ _ (reading.arrange_perm ?_)
    rw [keys_handMembers? found]
    exact distinct

/-! ## Fields and lists -/

section Fields

variable {α : Type}

/-- What is read of a tree once it has been handed over. -/
def read? (reading : Reading) (read : Tree → Option α) (tree : Tree) : Option α :=
  (reading.hand? tree).bind read

theorem read?_null (read : Tree → Option α) : reading.read? read .null = read .null := by
  rw [read?, hand?_null, Option.bind_some]

/-- A coordinate that is no number is written as `null`, which is none. -/
theorem read?_float_iff (reading : Reading) (x : Binary64) (allowed : Nat) {y : Binary64} :
    reading.read? Tree.number? ((Tree.float x).readBack allowed) = some y ↔
      x.IsFinite ∧ x = y := by
  rw [Tree.readBack]
  split
  · rename_i finite
    simp [read?, hand?_float finite, Tree.number?, finite]
  · rename_i infinite
    rw [read?_null]
    simp [Tree.number?, infinite]

section Members

variable {members : List (String × Tree)}

theorem read?_nullAsDefault (other : Json.isEmbedding members = false)
    (read : Tree → Option α) (default : α) :
    reading.read? (fun tree => (Slot.given tree).nullAsDefault read default) (.object members) =
      reading.read? read (.object members) := by
  rw [read?, read?, hand?_object other]
  cases reading.handMembers? members <;> rfl

theorem read?_optional (other : Json.isEmbedding members = false) (read : Tree → Option α) :
    reading.read? (fun tree => (Slot.given tree).optional read) (.object members) =
      (reading.read? read (.object members)).map some := by
  rw [read?, read?, hand?_object other]
  cases reading.handMembers? members <;> rfl

end Members

theorem read?_nullAsDefault_array (read : Tree → Option α) (default : α) (items : List Tree) :
    reading.read? (fun tree => (Slot.given tree).nullAsDefault read default) (.array items) =
      reading.read? read (.array items) := by
  rw [read?, read?, hand?_array]
  cases items.mapM reading.hand? <;> rfl

theorem read?_items_cons (read : Tree → Option α) {item : Tree} {items : List Tree}
    {values : List α} :
    ((item :: items).mapM reading.hand?).bind (List.mapM read) = some values ↔
      ∃ value rest, reading.read? read item = some value ∧
        (items.mapM reading.hand?).bind (List.mapM read) = some rest ∧ values = value :: rest := by
  simp only [read?, List.mapM_cons, Option.bind_eq_bind, Option.pure_def, Option.bind_assoc,
    Option.bind_some, Option.bind_eq_some_iff, Option.some.injEq]
  grind

/-- A list is read item by item. -/
theorem read?_list_iff (reading : Reading) (write : α → Tree) (read : Tree → Option α)
    (values : List α) {others : List α} :
    reading.read? (Tree.list? read) (.array (values.map write)) = some others ↔
      List.Forall₂ (fun value other => reading.read? read (write value) = some other)
        values others := by
  have items : ∀ handed : Option (List Tree),
      (handed.map Tree.array).bind (Tree.list? read) = handed.bind (List.mapM read) := by
    intro handed
    cases handed <;> rfl
  rw [read?, hand?_array, items]
  induction values generalizing others with
  | nil => simp [eq_comm]
  | cons value rest ih =>
    simp only [List.map_cons, read?_items_cons, ih, List.forall₂_cons_left_iff]

end Fields

/-! ## Maps -/

/-- The reading takes the map for what it is: no value has an embedding in it, nor is the map taken
for one. -/
def Admits : Reading → KeyMap Json → Prop
  | straight, map => Tree.PlainMembers (Json.memberTrees map.entries)
  | valued _, map => (Json.object map).tree.Plain

instance (reading : Reading) (map : KeyMap Json) : Decidable (reading.Admits map) :=
  match reading with
  | straight => Tree.PlainMembers.decide _
  | valued _ => Tree.Plain.decide _

/-- The field that holds a map of free values. -/
def map? (tree : Tree) : Option (KeyMap Json) :=
  (Slot.given tree).nullAsDefault (Tree.keyMap? Json.ofTree?) .empty

theorem keyMap?_object (members : List (String × Tree)) :
    Tree.keyMap? Json.ofTree? (.object members) =
      (Json.denotedMembers? Json.ofText? members).map .ofList := by
  have same : (members.mapM fun entry => (Json.ofTree? entry.2).map (entry.1, ·)) =
      Json.denotedMembers? Json.ofText? members := by
    induction members with
    | nil => rfl
    | cons entry rest ih =>
      rw [List.mapM_cons, ih, Json.denotedMembers?, Json.ofTree?]
      cases Json.denoted? Json.ofText? entry.2 <;> rfl
  rw [Tree.keyMap?, same]

/-- A field that is read as a map is `null` or an object. -/
theorem map?_eq_some {tree : Tree} {map : KeyMap Json} (read : map? tree = some map) :
    (tree = .null ∧ map = .empty) ∨ ∃ members entries, tree = .object members ∧
      Json.denotedMembers? Json.ofText? members = some entries ∧ map = .ofList entries := by
  cases tree with
  | null => cases read; exact Or.inl ⟨rfl, rfl⟩
  | object members =>
    rw [map?, Slot.nullAsDefault, keyMap?_object] at read
    · obtain ⟨entries, denoted, same⟩ := Option.map_eq_some_iff.mp read
      exact Or.inr ⟨members, entries, rfl, denoted, same.symm⟩
    · exact nofun
  | _ => cases read

theorem readable_of_map? {tree : Tree} {map : KeyMap Json} (read : map? tree = some map) :
    tree.isReadable = true := by
  obtain ⟨rfl, -⟩ | ⟨members, entries, rfl, denoted, -⟩ := map?_eq_some read
  · rfl
  · exact Json.readable_of_denotedMembers? denoted

theorem weight_map? {tree : Tree} {map : KeyMap Json} (read : map? tree = some map) :
    (Json.object map).tree.weight ≤ tree.weight := by
  obtain ⟨rfl, rfl⟩ | ⟨members, entries, rfl, denoted, rfl⟩ := map?_eq_some read
  · exact Nat.le_refl _
  · have lighter := (Json.weight_denotedMembers? Json.modest_ofText? denoted).1
    have kept := Tree.membersWeight_ofList (Json.memberTrees entries)
    rw [Json.object_ofList, Tree.weight, Tree.weight]
    omega

theorem map?_object_iff (map : KeyMap Json) :
    map? (Json.object map).tree = some map ↔
      Tree.PlainMembers (Json.memberTrees map.entries) := by
  have tree : (Json.object map).tree = .object (Json.memberTrees map.entries) := rfl
  constructor
  · intro read
    obtain ⟨null, -⟩ | ⟨members, entries, object, denoted, same⟩ := map?_eq_some read
    · exact absurd null nofun
    · cases object
      have kept := Tree.membersWeight_ofList (Json.memberTrees entries)
      have back := Json.object_ofList entries
      rw [← same, tree, Tree.object.injEq] at back
      rw [← back] at kept
      exact (Json.weight_denotedMembers? Json.modest_ofText? denoted).2 kept
  · intro plain
    obtain ⟨entries, denoted, same⟩ : ∃ entries,
        Json.denotedMembers? Json.ofText? (Json.memberTrees map.entries) = some entries ∧
        Json.memberTrees entries = Json.memberTrees map.entries :=
      Json.denotedMembers?_tree (Json.object map).canonical.2 plain
    rw [Json.memberTrees_injective same] at denoted
    rw [map?, tree, Slot.nullAsDefault, keyMap?_object, denoted, Option.map_some,
      KeyMap.ofList_eq map.ascending]
    exact nofun

/-- A map comes back just when it is not nested too deep and the reading admits it. -/
theorem hand?_map_iff (modest : reading.Modest) (map : KeyMap Json) (allowed : Nat) :
    (reading.hand? ((Json.object map).tree.readBack allowed)).bind map? = some map ↔
      (Json.object map).tree.depth ≤ allowed ∧ reading.Admits map := by
  by_cases shallow : (Json.object map).tree.depth ≤ allowed
  case neg =>
    have unreadable := Tree.isReadable_readBack (Nat.not_le.mp shallow)
    refine ⟨fun read => ?_, fun admitted => absurd admitted.1 shallow⟩
    obtain ⟨handed, found, read⟩ := Option.bind_eq_some_iff.mp read
    cases reading with
    | straight =>
      cases found
      exact absurd (readable_of_map? read) (Bool.eq_false_iff.mp unreadable)
    | valued embedded? =>
      obtain ⟨value, denoted, -⟩ := Option.map_eq_some_iff.mp found
      exact absurd (Json.readable_of_denoted? denoted) (Bool.eq_false_iff.mp unreadable)
  case pos =>
    rw [(Json.object map).canonical.readBack_eq shallow]
    simp only [shallow, true_and]
    cases reading with
    | straight => exact map?_object_iff map
    | valued embedded? =>
      constructor
      · intro read
        obtain ⟨handed, found, read⟩ := Option.bind_eq_some_iff.mp read
        obtain ⟨value, denoted, rfl⟩ := Option.map_eq_some_iff.mp found
        exact (Json.weight_denoted? modest denoted).2 (weight_map? read)
      · intro plain
        rw [hand?, Json.denoted?_tree (Json.object map).canonical plain, Option.map_some,
          Option.bind_some]
        exact (map?_object_iff map).mpr plain.2

end Reading

end SignalGraph
