import SignalGraph.Graph.Basic
import SignalGraph.Json.Printer
import SignalGraph.Proofs.Json.Range
import SignalGraph.Proofs.Json.Record

/-! Records that were read, written, and read again.

A record writes its fields in a fixed order and under one name each, so reading it again comes down
to its fields. A free value among them comes back just when it is plain and not nested too deep; all
else comes back if its numbers are in range, as those of a text are.
-/

set_option autoImplicit false

namespace SignalGraph

theorem mapM_map_eq_some_iff {α β γ : Type} {key : α → β} {read : β → Option γ}
    {values : List α} {results : List γ} : (values.map key).mapM read = some results ↔
      List.Forall₂ (fun value result => read (key value) = some result) values results := by
  induction values generalizing results with
  | nil => simp [eq_comm]
  | cons value rest ih =>
    simp only [List.map_cons, List.mapM_cons, Option.bind_eq_bind, Option.pure_def,
      Option.bind_eq_some_iff, ih, List.forall₂_cons_left_iff, Option.some.injEq]
    grind

namespace Slot

/-- What a record gives for a field that it leaves out when there is nothing to write. -/
def ofOption : Option Tree → Slot
  | some tree => given tree
  | none => absent

end Slot

namespace Tree

/-- The members of a record whose fields are written under these keys, if they are written. -/
def members (fields : List (String × Option Tree)) : List (String × Tree) :=
  fields.filterMap fun field => field.2.map (field.1, ·)

theorem members_some (key : String) (tree : Tree) (fields : List (String × Option Tree)) :
    members ((key, some tree) :: fields) = (key, tree) :: members fields := rfl

theorem members_map {α : Type} (key : String) (write : α → Tree) (value : Option α)
    (fields : List (String × Option Tree)) :
    members ((key, value.map write) :: fields) =
      optionalMember key write value ++ members fields := by
  cases value <;> rfl

theorem members_nil : members [] = [] := rfl

theorem ne_of_mem_members {fields : List (String × Option Tree)} {key : String}
    (new : key ∉ fields.map Prod.fst) {entry : String × Tree} (member : entry ∈ members fields) :
    entry.1 ≠ key := by
  obtain ⟨field, present, written⟩ := List.mem_filterMap.mp member
  obtain ⟨tree, -, rfl⟩ := Option.map_eq_some_iff.mp written
  exact fun same => new (same ▸ List.mem_map_of_mem present)

theorem filter_members_of_new {fields : List (String × Option Tree)} {key : String}
    (new : key ∉ fields.map Prod.fst) :
    (members fields).filter (fun entry => [key].contains entry.1) = [] := by
  refine List.filter_eq_nil_iff.mpr fun entry member => ?_
  simpa using ne_of_mem_members new member

theorem filter_members {fields : List (String × Option Tree)}
    (distinct : (fields.map Prod.fst).Nodup) {field : String × Option Tree}
    (member : field ∈ fields) :
    (members fields).filter (fun entry => [field.1].contains entry.1) = members [field] := by
  induction fields with
  | nil => exact absurd member List.not_mem_nil
  | cons first rest ih =>
    obtain ⟨new, distinct⟩ := List.nodup_cons.mp distinct
    have split : members (first :: rest) = members [first] ++ members rest := by
      rw [← List.singleton_append, members, List.filterMap_append]
      rfl
    rw [split, List.filter_append]
    rcases List.mem_cons.mp member with rfl | later
    · rw [filter_members_of_new new, List.append_nil]
      obtain ⟨key, value⟩ := field
      cases value <;> simp [members]
    · have other : field.1 ≠ first.1 := fun same => new (same ▸ List.mem_map_of_mem later)
      have none : (members [first]).filter (fun entry => [field.1].contains entry.1) = [] :=
        filter_members_of_new (by simpa using other)
      rw [none, List.nil_append, ih distinct later]

/-- A record that keeps its keys apart gives each field what was written for it. -/
theorem slots?_members {fields : List (String × Option Tree)}
    (distinct : (fields.map Prod.fst).Nodup) :
    (object (members fields)).slots? (fields.map fun field => [field.1]) =
      some (fields.map fun field => .ofOption field.2) := by
  refine mapM_map_eq_some_iff.mpr ?_
  rw [List.forall₂_map_right_iff, List.forall₂_same]
  intro field member
  rw [fieldSlot?, filter_members distinct member]
  obtain ⟨key, value⟩ := field
  cases value <;> rfl

theorem readBack_members (fields : List (String × Option Tree)) (allowed : Nat) :
    (object (members fields)).readBack (allowed + 1) =
      object (members (fields.map fun field => (field.1, field.2.map (readBack allowed)))) := by
  rw [readBack, Nat.add_sub_cancel, nested_of_pos (Nat.succ_pos allowed)]
  congr 1
  induction fields with
  | nil => rfl
  | cons field rest ih =>
    obtain ⟨key, value⟩ := field
    cases value <;> simp_all [members, readBackMembers]

theorem slots?_readBack {fields : List (String × Option Tree)}
    (distinct : (fields.map Prod.fst).Nodup) (allowed : Nat) :
    ((object (members fields)).readBack (allowed + 1)).slots? (fields.map fun field => [field.1]) =
      some (fields.map fun field => .ofOption (field.2.map (readBack allowed))) := by
  have kept : ((fields.map fun field => (field.1, field.2.map (readBack allowed))).map
      Prod.fst).Nodup := by
    simpa [Function.comp_def] using distinct
  have moved := slots?_members kept
  rw [readBack_members]
  simpa only [List.map_map, Function.comp_def] using moved

/-- A tagged record shows its word once the rest of it is readable. -/
theorem tagged?_readBack {tag : String} (word : String) {fields : List (String × Option Tree)}
    (new : tag ∉ fields.map Prod.fst) (allowed : Nat) :
    ((object (members ((tag, some (string word)) :: fields))).readBack (allowed + 1)).tagged? tag =
      let arguments := (object (members fields)).readBack (allowed + 1)
      if arguments.isReadable then some (word, arguments) else none := by
  have fresh : tag ∉ (fields.map fun field => (field.1, field.2.map (readBack allowed))).map
      Prod.fst := by
    rw [List.map_map]
    exact new
  simp only [readBack_members, List.map_cons, Option.map_some]
  generalize fields.map (fun field => (field.1, field.2.map (readBack allowed))) = given at fresh
  -- No argument has the key of the tag, so the tag is found once and nothing else is taken out.
  have other : ∀ entry ∈ members given, entry.1 ≠ tag := fun _ => ne_of_mem_members fresh
  have found : (members given).filter (fun entry => entry.1 = tag) = [] :=
    List.filter_eq_nil_iff.mpr fun entry member => by simpa using other entry member
  have rest : (members given).filter (fun entry => entry.1 ≠ tag) = members given :=
    List.filter_eq_self.mpr fun entry member => by simpa using other entry member
  rw [members_some, tagged?, isReadable, membersReadable, List.filter_cons_of_pos (by simp), found,
    List.filter_cons_of_neg (by simp), rest]
  cases membersReadable (members given) <;> rfl

@[simp]
theorem readBack_string (text : String) (allowed : Nat) :
    (string text).readBack allowed = string text := rfl

@[simp]
theorem readBack_bool (value : Bool) (allowed : Nat) :
    (bool value).readBack allowed = bool value := rfl

theorem readBack_integer {n : Int} (inRange : InIntegerRange n) (allowed : Nat) :
    (integer n).readBack allowed = integer n := Canonical.readBack_eq inRange (Nat.zero_le allowed)

theorem readBack_float {x : Binary64} (finite : x.IsFinite) (allowed : Nat) :
    (float x).readBack allowed = float x := Canonical.readBack_eq finite (Nat.zero_le allowed)

theorem nullable?_readBack (value : Option String) (allowed : Nat) :
    ((nullable string value).readBack allowed).nullable? text? = some value := by
  cases value <;> rfl

theorem isReadable_nullable_readBack (value : Option String) (allowed : Nat) :
    ((nullable string value).readBack allowed).isReadable = true := by
  cases value <;> rfl

theorem list?_readBack_iff {α : Type} (write : α → Tree) (read : Tree → Option α)
    (values : List α) (allowed : Nat) :
    list? read ((array (values.map write)).readBack (allowed + 1)) = some values ↔
      ∀ value ∈ values, read ((write value).readBack allowed) = some value := by
  have items : (array (values.map write)).readBack (allowed + 1) =
      array (values.map fun value => (write value).readBack allowed) :=
    congrArg array (readBackItems_map write values allowed)
  rw [items]
  exact (Reading.straight.read?_list_iff _ read values).trans List.forall₂_same

theorem keyMap?_readBack_iff {α : Type} (write : α → Tree) (read : Tree → Option α)
    (map : KeyMap α) (allowed : Nat) :
    keyMap? read ((object (map.entries.map fun entry => (entry.1, write entry.2))).readBack
        (allowed + 1)) = some map ↔
      ∀ entry ∈ map.entries, read ((write entry.2).readBack allowed) = some entry.2 := by
  have text : (object (map.entries.map fun entry => (entry.1, write entry.2))).readBack
      (allowed + 1) =
        object (map.entries.map fun entry => (entry.1, (write entry.2).readBack allowed)) :=
    congrArg object (readBackMembers_map write map.entries allowed)
  have value : ∀ (entry : String × α) (result : String × α),
      (read ((write entry.2).readBack allowed)).map (entry.1, ·) = some result ↔
        read ((write entry.2).readBack allowed) = some result.2 ∧ entry.1 = result.1 := by
    rintro entry ⟨key, value⟩
    simp only [Option.map_eq_some_iff, Prod.mk.injEq]
    grind
  rw [text, keyMap?, Option.map_eq_some_iff]
  simp only [mapM_map_eq_some_iff, value]
  constructor
  · rintro ⟨entries, found, same⟩
    have keys : map.entries.map Prod.fst = entries.map Prod.fst := by
      rw [← List.forall₂_eq_eq_eq, List.forall₂_map_left_iff, List.forall₂_map_right_iff]
      exact found.imp fun _ _ both => both.2
    -- The keys that come back ascend as those of the map do, so nothing is moved or dropped.
    have ascending : Ascending entries := by
      have order := List.pairwise_map.mpr map.ascending
      rw [keys] at order
      exact List.pairwise_map.mp order
    have all : entries = map.entries := by
      rw [← same, KeyMap.ofList_eq ascending]
    subst all
    exact fun entry member => (List.forall₂_same.mp found entry member).1
  · intro all
    refine ⟨map.entries, List.forall₂_same.mpr fun entry member => ⟨all entry member, rfl⟩, ?_⟩
    exact KeyMap.ofList_eq map.ascending

theorem Canonical.readBack_ne_null {tree : Tree} (canonical : tree.Canonical)
    (other : tree ≠ .null) (allowed : Nat) : tree.readBack allowed ≠ .null := by
  cases tree with
  | null => exact absurd rfl other
  | integer => rw [readBack_integer canonical]; exact nofun
  | float => rw [readBack_float canonical]; exact nofun
  | bool | string => exact nofun
  | array | object => cases allowed <;> exact nofun
  | unreadable => exact canonical.elim

end Tree

/-! ## Fields -/

namespace Slot

theorem optional_ofOption_iff {α : Type} (write : α → Tree) (read : Tree → Option α)
    (value : Option α) (allowed : Nat) :
    (ofOption ((value.map write).map (Tree.readBack allowed))).optional read = some value ↔
      ∀ given, value = some given →
        (Slot.given ((write given).readBack allowed)).optional read = some (some given) := by
  cases value <;> simp [ofOption, optional]

theorem optional_string_readBack (value : Option String) (allowed : Nat) :
    (ofOption ((value.map .string).map (Tree.readBack allowed))).optional Tree.text? =
      some value := (optional_ofOption_iff _ _ _ _).mpr fun _ _ => rfl

theorem optional_float_readBack {value : Option Binary64}
    (finite : ∀ x, value = some x → x.IsFinite) (allowed : Nat) :
    (ofOption ((value.map .float).map (Tree.readBack allowed))).optional Tree.number? =
      some value := by
  refine (optional_ofOption_iff _ _ _ _).mpr fun x given => ?_
  rw [Tree.readBack_float (finite x given)]
  rfl

end Slot

/-! ## Free values -/

/-- The value is read again from its text where so many containers may be opened around it. -/
def Json.Fits (room : Nat) (value : Json) : Prop := value.tree.depth ≤ room ∧ value.tree.Plain

theorem Json.ofTree?_readBack_iff (value : Json) (allowed : Nat) :
    ofTree? (value.tree.readBack allowed) = some value ↔ value.Fits allowed := by
  by_cases shallow : value.tree.depth ≤ allowed
  · rw [value.canonical.readBack_eq shallow]
    constructor
    · intro read
      -- An embedding would make the value lighter than the tree that it is read from.
      exact ⟨shallow, (weight_denoted? modest_ofText? read).2 (Nat.le_refl _)⟩
    · intro fits
      exact denoted?_tree value.canonical fits.2
  · have unreadable := Tree.isReadable_readBack (Nat.not_le.mp shallow)
    refine ⟨fun read => ?_, fun fits => absurd fits.1 shallow⟩
    exact absurd (readable_of_denoted? read) (Bool.eq_false_iff.mp unreadable)

theorem Json.ofText?_compact {value : Json} (fits : value.Fits Tree.depthLimit) :
    ofText? value.compact = some value := by
  rw [ofText?, ofNestedText?, compact, Tree.read?_compact, Option.bind_some,
    value.canonical.readBack_eq fits.1]
  exact denoted?_tree value.canonical fits.2

theorem Json.isReadable_readBack {value : Json} {allowed : Nat} (fits : value.Fits allowed) :
    (value.tree.readBack allowed).isReadable = true :=
  readable_of_denoted? ((value.ofTree?_readBack_iff allowed).mpr fits)

/-- An optional free value. `null` is written like any other value, but read as none. -/
theorem Slot.optional_json_iff (value : Option Json) (allowed : Nat) :
    (ofOption ((value.map Json.tree).map (Tree.readBack allowed))).optional Json.ofTree? =
      some value ↔ ∀ given, value = some given → given ≠ .null ∧ given.Fits allowed := by
  rw [optional_ofOption_iff]
  refine forall₂_congr fun given _ => ?_
  rw [← Json.ofTree?_readBack_iff]
  by_cases null : given = .null
  · subst null
    simp [optional, Tree.readBack, Json.null, Tree.nullable?]
  · have other : given.tree.readBack allowed ≠ .null :=
      given.canonical.readBack_ne_null (fun same => null (Json.ext same)) allowed
    rw [optional_of_ne_null other]
    simp [null]

/-- A map of free values, likewise. That it begins with the reserved key does it no harm. -/
def KeyMap.Fits (room : Nat) (map : KeyMap Json) : Prop :=
  map.toTree.depth ≤ room ∧ Tree.PlainMembers (Json.memberTrees map.entries)

theorem Reading.map?_readBack_iff (map : KeyMap Json) (allowed : Nat) :
    map? (map.toTree.readBack allowed) = some map ↔ map.Fits allowed := by
  have modest : straight.Modest := trivial
  exact hand?_map_iff modest map allowed

theorem KeyMap.isReadable_readBack {map : KeyMap Json} {allowed : Nat} (fits : map.Fits allowed) :
    (map.toTree.readBack allowed).isReadable = true :=
  Reading.readable_of_map? ((Reading.map?_readBack_iff map allowed).mpr fits)

theorem KeyMap.ofTree?_readBack_iff (map : KeyMap Json) (allowed : Nat) :
    Tree.keyMap? Json.ofTree? (map.toTree.readBack allowed) = some map ↔ map.Fits allowed := by
  have same : Tree.keyMap? Json.ofTree? (map.toTree.readBack allowed) =
      Reading.map? (map.toTree.readBack allowed) := by
    cases allowed <;> rfl
  exact same ▸ Reading.map?_readBack_iff map allowed

end SignalGraph
