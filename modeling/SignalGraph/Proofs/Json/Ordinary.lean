import SignalGraph.Proofs.Json.Written

/-! Trees in which no object has the reserved key, and the values read from them.

Nothing is embedded in such a tree, so its values are nested no deeper than it is, and begin nowhere
with the reserved key once their keys are in order.
-/

set_option autoImplicit false

namespace SignalGraph

namespace Tree

mutual

/-- No object of the tree has the key reserved for embedded texts. -/
def isUnreserved : Tree → Bool
  | array items => itemsUnreserved items
  | object members => membersUnreserved members
  | _ => true

def itemsUnreserved : List Tree → Bool
  | [] => true
  | item :: rest => item.isUnreserved && itemsUnreserved rest

def membersUnreserved : List (String × Tree) → Bool
  | [] => true
  | (key, value) :: rest =>
    key != Json.embeddingKey && value.isUnreserved && membersUnreserved rest

end

theorem isUnreserved_of_mem {items : List Tree} (unreserved : itemsUnreserved items = true)
    {item : Tree} (member : item ∈ items) : item.isUnreserved = true := by
  induction items with
  | nil => exact absurd member List.not_mem_nil
  | cons first rest ih =>
    simp only [itemsUnreserved, Bool.and_eq_true] at unreserved
    rcases List.mem_cons.mp member with rfl | member
    · exact unreserved.1
    · exact ih unreserved.2 member

theorem membersUnreserved_iff {members : List (String × Tree)} :
    membersUnreserved members = true ↔ Json.embeddingKey ∉ members.map Prod.fst ∧
      ∀ entry ∈ members, entry.2.isUnreserved = true := by
  induction members with
  | nil => simp [membersUnreserved]
  | cons entry rest ih =>
    simp only [membersUnreserved, Bool.and_eq_true, ih, bne_iff_ne, List.map_cons, List.mem_cons]
    grind

/-- No object has the reserved key, and no more than so many containers are inside each other. -/
inductive Ordinary : Nat → Tree → Prop where
  | leaf {room : Nat} {tree : Tree} (flat : tree.depth = 0) : Ordinary room tree
  | array {room : Nat} {items : List Tree} (parts : ∀ item ∈ items, Ordinary room item) :
      Ordinary (room + 1) (.array items)
  | object {room : Nat} {members : List (String × Tree)}
      (unreserved : Json.embeddingKey ∉ members.map Prod.fst)
      (parts : ∀ entry ∈ members, Ordinary room entry.2) : Ordinary (room + 1) (.object members)

theorem depth_ofLiteral (negative : Bool) (whole places : List Char) (exponent : Option Int) :
    (ofLiteral negative whole places exponent).depth = 0 := by
  simp only [ofLiteral]
  generalize (if negative = true then -(digitsValue 0 whole : Int) else digitsValue 0 whole) = n
  split
  · rfl
  · split <;> rfl

theorem grows_ordinary : Grows fun room tree => tree.isUnreserved = true → tree.Ordinary room where
  null _ _ := .leaf rfl
  bool _ _ _ := .leaf rfl
  string _ _ _ := .leaf rfl
  unreadable _ _ := .leaf rfl
  literal _ _ _ _ _ _ := .leaf (depth_ofLiteral _ _ _ _)
  array _ _ parts unreserved :=
    .array fun item member => parts item member (isUnreserved_of_mem unreserved member)
  object _ _ parts unreserved :=
    have free := membersUnreserved_iff.mp unreserved
    .object free.1 fun entry member => parts entry member (free.2 entry member)

theorem ordinary_of_read? {text : String} {tree : Tree} (read : read? text = some tree)
    (unreserved : tree.isUnreserved = true) : tree.Ordinary depthLimit :=
  grows_ordinary.of_read? read unreserved

theorem isEmbedding_eq_false {members : List (String × Tree)}
    (unreserved : Json.embeddingKey ∉ members.map Prod.fst) : Json.isEmbedding members = false := by
  cases members with
  | nil => rfl
  | cons entry rest =>
    have other : entry.1 ≠ Json.embeddingKey := fun same => unreserved (same ▸ List.mem_cons_self)
    simpa [Json.isEmbedding] using other

namespace Ordinary

variable {room : Nat} {tree part : Tree}

theorem of_isPart (ordinary : tree.Ordinary (room + 1)) (isPart : part.IsPart tree) :
    part.Ordinary room := by
  cases ordinary with
  | leaf flat =>
    cases tree with
    | array | object => cases flat
    | _ => exact isPart.elim
  | array parts => exact parts part isPart
  | object _ parts =>
    obtain ⟨key, member⟩ := isPart
    exact parts _ member

theorem of_slots? {fields : List (List String)} {slots : List Slot}
    (ordinary : tree.Ordinary (room + 1)) (found : tree.slots? fields = some slots)
    (member : Slot.given part ∈ slots) : part.Ordinary room :=
  ordinary.of_isPart (isPart_of_slots? found member)

theorem of_tagged? {tag word : String} (ordinary : tree.Ordinary (room + 1))
    (found : tree.tagged? tag = some (word, part)) : part.Ordinary (room + 1) := by
  unfold tagged? at found
  split at found
  · rename_i members
    obtain ⟨_, -, found⟩ := Option.bind_eq_some_iff.mp found
    split at found
    · cases found
      cases ordinary with
      | leaf flat => cases flat
      | object unreserved parts =>
        -- The rest of the members, with the tag taken out, is a part of the list that was there.
        refine .object (fun reserved => unreserved ?_) fun entry member =>
          parts entry (List.mem_filter.mp member).1
        exact (List.filter_sublist.map Prod.fst).subset reserved
    · cases found
  · rename_i first rest
    obtain ⟨_, -, found⟩ := Option.bind_eq_some_iff.mp found
    cases found
    cases ordinary with
    | leaf flat => cases flat
    | array parts => exact .array fun item member => parts item (List.mem_cons_of_mem _ member)
  · cases found

theorem shallow (ordinary : tree.Ordinary room) : tree.depth ≤ room := by
  induction ordinary with
  | leaf flat => omega
  | array parts ih => exact Nat.succ_le_succ (itemsDepth_le_iff.mpr ih)
  | object unreserved parts ih => exact Nat.succ_le_succ (membersDepth_le_iff.mpr ih)

theorem plain (ordinary : tree.Ordinary room) : tree.Plain := by
  induction ordinary with
  | @leaf room tree flat =>
    cases tree with
    | array | object => cases flat
    | _ => trivial
  | array parts ih => exact plainItems_iff.mpr ih
  | object unreserved parts ih =>
    exact ⟨isEmbedding_eq_false unreserved, plainMembers_iff.mpr ih⟩

end Ordinary

end Tree

/-! ## Free values -/

namespace Json

variable {embedded? : String → Option Json}

theorem mem_of_denotedItems? {items : List Tree} {values : List Json}
    (denoted : denotedItems? embedded? items = some values) {value : Json}
    (member : value ∈ values) : ∃ item ∈ items, denoted? embedded? item = some value := by
  induction items generalizing values with
  | nil =>
    cases denoted
    exact absurd member List.not_mem_nil
  | cons item rest ih =>
    obtain ⟨first, others, here, more, rfl⟩ := denotedItems?_cons.mp denoted
    rcases List.mem_cons.mp member with rfl | member
    · exact ⟨item, List.mem_cons_self, here⟩
    · obtain ⟨other, present, found⟩ := ih more member
      exact ⟨other, List.mem_cons_of_mem item present, found⟩

theorem mem_of_denotedMembers? {members : List (String × Tree)} {entries : List (String × Json)}
    (denoted : denotedMembers? embedded? members = some entries) {entry : String × Json}
    (member : entry ∈ entries) :
    ∃ tree, (entry.1, tree) ∈ members ∧ denoted? embedded? tree = some entry.2 := by
  induction members generalizing entries with
  | nil =>
    cases denoted
    exact absurd member List.not_mem_nil
  | cons first rest ih =>
    obtain ⟨value, others, here, more, rfl⟩ := denotedMembers?_cons.mp denoted
    rcases List.mem_cons.mp member with rfl | member
    · exact ⟨first.2, List.mem_cons_self, here⟩
    · obtain ⟨other, present, found⟩ := ih more member
      exact ⟨other, List.mem_cons_of_mem first present, found⟩

/-- Of several members with one key the last is kept, and none is added. -/
theorem ordinary_object {members : List (String × Tree)} {entries : List (String × Json)}
    {room : Nat} (denoted : denotedMembers? embedded? members = some entries)
    (unreserved : embeddingKey ∉ members.map Prod.fst)
    (parts : ∀ entry ∈ members, ∀ value, denoted? embedded? entry.2 = some value →
      value.tree.Ordinary room) :
    (object (.ofList entries)).tree.Ordinary (room + 1) := by
  have origin : ∀ entry ∈ (KeyMap.ofList entries).entries,
      ∃ tree, (entry.1, tree) ∈ members ∧ denoted? embedded? tree = some entry.2 :=
    fun entry member => mem_of_denotedMembers? denoted (KeyMap.mem_of_mem_ofList member)
  refine .object (fun reserved => unreserved ?_) fun written member => ?_
  · obtain ⟨written, member, key⟩ := List.mem_map.mp reserved
    obtain ⟨entry, kept, rfl⟩ := List.mem_map.mp member
    obtain ⟨tree, present, -⟩ := origin entry kept
    exact List.mem_map.mpr ⟨_, present, key⟩
  · obtain ⟨entry, kept, rfl⟩ := List.mem_map.mp member
    obtain ⟨tree, present, found⟩ := origin entry kept
    exact parts _ present _ found

theorem ordinary_of_denoted? {room : Nat} {tree : Tree} (ordinary : tree.Ordinary room)
    {value : Json} (denoted : denoted? embedded? tree = some value) :
    value.tree.Ordinary room := by
  -- By the containers of the tree: with no reserved key each denotes a container of its parts.
  induction ordinary generalizing value with
  | @leaf room tree flat =>
    cases tree with
    | array | object => cases flat
    | unreadable => cases denoted
    | null | bool | string =>
      cases denoted
      exact .leaf rfl
    | integer | float =>
      rw [denoted?] at denoted
      split at denoted
      · cases denoted
        exact .leaf rfl
      · cases denoted
  | array parts ih =>
    obtain ⟨values, inside, rfl⟩ := Option.map_eq_some_iff.mp denoted
    refine .array fun written member => ?_
    obtain ⟨value, kept, rfl⟩ := List.mem_map.mp member
    obtain ⟨item, present, found⟩ := mem_of_denotedItems? inside kept
    exact ih item present found
  | object unreserved parts ih =>
    rw [denoted?_object (Tree.isEmbedding_eq_false unreserved)] at denoted
    obtain ⟨entries, inside, rfl⟩ := Option.map_eq_some_iff.mp denoted
    exact ordinary_object inside unreserved fun entry member _ => ih entry member

-- An embedded text may be that of `null`; without embeddings only `null` denotes it.
theorem ne_null_of_denoted? {room : Nat} {tree : Tree} (ordinary : tree.Ordinary room)
    (other : tree ≠ .null) {value : Json} (denoted : denoted? embedded? tree = some value) :
    value ≠ null := by
  rintro rfl
  cases tree with
  | null => exact other rfl
  | bool | string | unreadable => cases denoted
  | integer | float =>
    rw [denoted?] at denoted
    split at denoted <;> cases denoted
  | array items =>
    obtain ⟨values, -, same⟩ := Option.map_eq_some_iff.mp denoted
    cases congrArg tree same
  | object members =>
    cases ordinary with
    | leaf flat => cases flat
    | object unreserved _ =>
      rw [denoted?_object (Tree.isEmbedding_eq_false unreserved)] at denoted
      obtain ⟨entries, -, same⟩ := Option.map_eq_some_iff.mp denoted
      cases congrArg tree same

theorem fits_of_ofTree? {room : Nat} {tree : Tree} (ordinary : tree.Ordinary room) {value : Json}
    (read : ofTree? tree = some value) : value.Fits room :=
  have kept := ordinary_of_denoted? ordinary read
  ⟨kept.shallow, kept.plain⟩

end Json

namespace KeyMap

theorem fits_empty (room : Nat) : (empty : KeyMap Json).Fits (room + 1) :=
  ⟨Nat.le_add_left 1 room, trivial⟩

theorem fits_of_keyMap? {room : Nat} {tree : Tree} (ordinary : tree.Ordinary room)
    {map : KeyMap Json} (read : tree.keyMap? Json.ofTree? = some map) : map.Fits room := by
  cases tree with
  | object members =>
    rw [Reading.keyMap?_object] at read
    obtain ⟨entries, denoted, rfl⟩ := Option.map_eq_some_iff.mp read
    cases ordinary with
    | leaf flat => cases flat
    | object unreserved parts =>
      have kept := Json.ordinary_object denoted unreserved fun entry member _ =>
        Json.ordinary_of_denoted? (parts entry member)
      exact ⟨kept.shallow, kept.plain.2⟩
  | _ => cases read

end KeyMap

namespace Slot

variable {slot : Slot} {room : Nat}

theorem fits_of_optional (ordinary : ∀ part, slot = given part → part.Ordinary room)
    {value : Option Json} (read : slot.optional Json.ofTree? = some value) :
    ∀ free, value = some free → free ≠ .null ∧ free.Fits room := by
  rintro free rfl
  obtain ⟨tree, rfl, other, found⟩ := given_of_optional read
  exact ⟨Json.ne_null_of_denoted? (ordinary tree rfl) other found,
    Json.fits_of_ofTree? (ordinary tree rfl) found⟩

theorem fits_of_nullAsDefault (ordinary : ∀ part, slot = given part → part.Ordinary (room + 1))
    {map : KeyMap Json}
    (read : slot.nullAsDefault (Tree.keyMap? Json.ofTree?) .empty = some map) :
    map.Fits (room + 1) := by
  rcases given_of_nullAsDefault read with ⟨tree, rfl, found⟩ | rfl
  · exact KeyMap.fits_of_keyMap? (ordinary tree rfl) found
  · exact KeyMap.fits_empty room

end Slot

end SignalGraph
