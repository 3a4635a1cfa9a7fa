import SignalGraph.Json.Value
import SignalGraph.Proofs.KeyMap

/-! Equality of JSON values, in which numbers compare as numbers.

It is symmetric and transitive, but not identity: the two zeros are equal. A NaN differs even from
itself, so a tree need not equal itself. A value holds no NaN and does, and so does a map of values.
-/

set_option autoImplicit false

namespace SignalGraph

namespace Binary64

instance : PartialEquivBEq Binary64 where
  symm {first second} same := by
    cases first <;> cases second <;> simp_all [BEq.beq, eq_comm]
  trans {first second third} same next := by
    cases first <;> cases second <;> simp_all [BEq.beq] <;> cases third <;> simp_all

theorem beq_self_iff (value : Binary64) : (value == value) = true ↔ value ≠ nan := by
  cases value <;> simp [BEq.beq]

theorem IsFinite.beq_self {value : Binary64} (finite : value.IsFinite) :
    (value == value) = true := by
  rw [beq_self_iff]
  rintro rfl
  exact finite

end Binary64

namespace Tree

-- Trees nest in lists of items and of members, so each law is proved of all three at once.
mutual

theorem same_symm : ∀ first second : Tree, same first second = true → same second first = true
  | .array items, second => by
    cases second with
    | array others => exact sameItems_symm items others
    | _ => exact id
  | .object members, second => by
    cases second with
    | object others => exact sameMembers_symm members others
    | _ => exact id
  | .bool _, second | .integer _, second | .float _, second | .string _, second => by
    cases second <;> first | exact BEq.symm | exact id
  | .null, second | .unreadable, second => by cases second <;> exact id

theorem sameItems_symm : ∀ first second : List Tree,
    sameItems first second = true → sameItems second first = true
  | [], second => by cases second <;> exact id
  | _ :: _, [] => id
  | item :: rest, other :: others => by
    simp only [sameItems, Bool.and_eq_true]
    exact fun ⟨same, more⟩ => ⟨same_symm item other same, sameItems_symm rest others more⟩

theorem sameMembers_symm : ∀ first second : List (String × Tree),
    sameMembers first second = true → sameMembers second first = true
  | [], second => by cases second <;> exact id
  | _ :: _, [] => id
  | (_, value) :: rest, (_, other) :: others => by
    simp only [sameMembers, Bool.and_eq_true, beq_iff_eq]
    exact fun ⟨⟨key, same⟩, more⟩ =>
      ⟨⟨key.symm, same_symm value other same⟩, sameMembers_symm rest others more⟩

end

mutual

theorem same_trans : ∀ first second third : Tree,
    same first second = true → same second third = true → same first third = true
  | .array items, second, third => by
    cases second with
    | array others =>
      cases third with
      | array last => exact sameItems_trans items others last
      | _ => exact fun _ => id
    | _ => exact nofun
  | .object members, second, third => by
    cases second with
    | object others =>
      cases third with
      | object last => exact sameMembers_trans members others last
      | _ => exact fun _ => id
    | _ => exact nofun
  | .bool _, second, third | .integer _, second, third | .float _, second, third
  | .string _, second, third => by
    intro same next
    -- Leaves of different sorts are never the same.
    cases second <;> cases third <;>
      first | exact BEq.trans same next | exact (Bool.false_ne_true same).elim | exact next
  | .null, second, _ | .unreadable, second, _ => by
    intro same next
    cases second <;> first | exact next | exact (Bool.false_ne_true same).elim

theorem sameItems_trans : ∀ first second third : List Tree,
    sameItems first second = true → sameItems second third = true → sameItems first third = true
  | [], [], _ => fun _ => id
  | [], _ :: _, _ | _ :: _, [], _ => nofun
  | _ :: _, _ :: _, [] => fun _ => id
  | item :: rest, other :: others, last :: remaining => by
    simp only [sameItems, Bool.and_eq_true]
    exact fun ⟨same, more⟩ ⟨next, further⟩ =>
      ⟨same_trans item other last same next, sameItems_trans rest others remaining more further⟩

theorem sameMembers_trans : ∀ first second third : List (String × Tree),
    sameMembers first second = true → sameMembers second third = true →
      sameMembers first third = true
  | [], [], _ => fun _ => id
  | [], _ :: _, _ | _ :: _, [], _ => nofun
  | _ :: _, _ :: _, [] => fun _ => id
  | (_, value) :: rest, (_, other) :: others, (_, last) :: remaining => by
    simp only [sameMembers, Bool.and_eq_true, beq_iff_eq]
    exact fun ⟨⟨key, same⟩, more⟩ ⟨⟨nextKey, next⟩, further⟩ =>
      ⟨⟨key.trans nextKey, same_trans value other last same next⟩,
        sameMembers_trans rest others remaining more further⟩

end

mutual

/-- All floats of a canonical tree are finite, so that nothing in it differs from itself. -/
theorem Canonical.same_self : ∀ {tree : Tree}, tree.Canonical → same tree tree = true
  | .array _, canonical => CanonicalItems.same_self canonical
  | .object _, canonical => CanonicalMembers.same_self canonical.2
  | .float _, finite => Binary64.IsFinite.beq_self finite
  | .bool _, _ | .integer _, _ | .string _, _ => BEq.rfl
  | .null, _ => rfl

theorem CanonicalItems.same_self : ∀ {items : List Tree}, CanonicalItems items →
    sameItems items items = true
  | [], _ => rfl
  | _ :: _, ⟨canonical, rest⟩ => by
    rw [sameItems, canonical.same_self, rest.same_self, Bool.and_self]

theorem CanonicalMembers.same_self : ∀ {members : List (String × Tree)}, CanonicalMembers members →
    sameMembers members members = true
  | [], _ => rfl
  | _ :: _, ⟨canonical, rest⟩ => by
    rw [sameMembers, BEq.rfl, canonical.same_self, rest.same_self, Bool.and_self, Bool.and_self]

end

end Tree

instance : EquivBEq Json where
  symm := Tree.same_symm _ _
  trans := Tree.same_trans _ _ _
  rfl {value} := value.canonical.same_self

/-! ## Lists and maps -/

section Containers

variable {α β : Type} [BEq α] [BEq β]

instance optionPartialEquivBEq [PartialEquivBEq α] : PartialEquivBEq (Option α) where
  symm {first second} same := by
    cases first <;> cases second
    case some.some first second => exact (BEq.symm same : (second == first) = true)
    all_goals exact same
  trans {first second third} same next := by
    cases first <;> cases second
    case some.some first second =>
      cases third with
      | none => exact next
      | some third => exact (BEq.trans same next : (first == third) = true)
    case none.none => exact next
    all_goals exact Bool.noConfusion same

instance listPartialEquivBEq [PartialEquivBEq α] : PartialEquivBEq (List α) where
  symm {first second} same := by
    induction first generalizing second with
    | nil => cases second <;> exact same
    | cons item rest ih =>
      cases second with
      | nil => exact same
      | cons other others =>
        rw [List.cons_beq_cons, Bool.and_eq_true] at same ⊢
        exact ⟨BEq.symm same.1, ih same.2⟩
  trans {first second third} same next := by
    induction first generalizing second third with
    | nil =>
      cases second with
      | nil => exact next
      | cons => exact (Bool.false_ne_true same).elim
    | cons item rest ih =>
      cases second with
      | nil => exact (Bool.false_ne_true same).elim
      | cons other others =>
        cases third with
        | nil => exact next
        | cons last remaining =>
          rw [List.cons_beq_cons, Bool.and_eq_true] at same next ⊢
          exact ⟨BEq.trans same.1 next.1, ih same.2 next.2⟩

theorem beq_self_iff_forall {entries : List α} :
    (entries == entries) = true ↔ ∀ entry ∈ entries, (entry == entry) = true := by
  induction entries with
  | nil => simp
  | cons entry rest ih => rw [List.cons_beq_cons, Bool.and_eq_true, List.forall_mem_cons, ih]

section Keys

variable {κ : Type} {key : α → κ} {first second : List α}

theorem map_eq_of_beq (kept : ∀ entry other : α, (entry == other) = true → key entry = key other)
    (same : (first == second) = true) : first.map key = second.map key := by
  induction first generalizing second with
  | nil =>
    cases second with
    | nil => rfl
    | cons => cases same
  | cons entry rest ih =>
    cases second with
    | nil => cases same
    | cons other others =>
      rw [List.cons_beq_cons, Bool.and_eq_true] at same
      rw [List.map_cons, List.map_cons, kept entry other same.1, ih same.2]

/-- Lists with the same keys in the same order are equal if the key tells what is equal. -/
theorem beq_of_map_eq (keys : first.map key = second.map key)
    (told : ∀ entry ∈ first, ∀ other ∈ second, key entry = key other → (entry == other) = true) :
    (first == second) = true := by
  induction first generalizing second with
  | nil =>
    cases second with
    | nil => rfl
    | cons => cases keys
  | cons entry rest ih =>
    cases second with
    | nil => cases keys
    | cons other others =>
      rw [List.map_cons, List.map_cons, List.cons.injEq] at keys
      have heads := told entry List.mem_cons_self other List.mem_cons_self keys.1
      have tails := ih keys.2 fun entry member other present =>
        told entry (List.mem_cons_of_mem _ member) other (List.mem_cons_of_mem _ present)
      rw [List.cons_beq_cons, heads, tails, Bool.and_self]

end Keys

instance pairPartialEquivBEq [PartialEquivBEq α] [PartialEquivBEq β] :
    PartialEquivBEq (α × β) where
  symm same := by
    obtain ⟨left, right⟩ := (Bool.and_eq_true _ _).mp same
    exact (Bool.and_eq_true _ _).mpr ⟨BEq.symm left, BEq.symm right⟩
  trans same next := by
    obtain ⟨left, right⟩ := (Bool.and_eq_true _ _).mp same
    obtain ⟨nextLeft, nextRight⟩ := (Bool.and_eq_true _ _).mp next
    exact (Bool.and_eq_true _ _).mpr ⟨BEq.trans left nextLeft, BEq.trans right nextRight⟩

theorem KeyMap.beq_def (first second : KeyMap α) :
    (first == second) = (first.entries == second.entries) := rfl

instance [EquivBEq α] : EquivBEq (KeyMap α) where
  symm same := by
    rw [KeyMap.beq_def] at same ⊢
    exact BEq.symm same
  trans same next := by
    rw [KeyMap.beq_def] at same next ⊢
    exact BEq.trans same next
  rfl {map} := (map.beq_def map).trans BEq.rfl

theorem lookup_beq_of_beq {first second : List (String × α)} (same : (first == second) = true)
    (key : String) : (first.lookup key == second.lookup key) = true := by
  induction first generalizing second with
  | nil =>
    cases second with
    | nil => rfl
    | cons => cases same
  | cons entry rest ih =>
    cases second with
    | nil => cases same
    | cons other others =>
      rw [List.cons_beq_cons, Bool.and_eq_true] at same
      obtain ⟨keys, values⟩ := (Bool.and_eq_true _ _).mp same.1
      rw [lookup_cons_eq, lookup_cons_eq, eq_of_beq keys]
      split
      · exact values
      · exact ih same.2

/-- Maps are equal if what they have under each key is. -/
theorem KeyMap.beq_iff_get? {first second : KeyMap α} :
    (first == second) = true ↔ ∀ key, (first.get? key == second.get? key) = true := by
  constructor
  · exact fun same => lookup_beq_of_beq same
  · intro same
    have held : ∀ map : KeyMap α, ∀ key,
        key ∈ map.entries.map Prod.fst ↔ (map.get? key).isSome = true := by
      intro map key
      rw [List.mem_map, Option.isSome_iff_exists]
      constructor
      · rintro ⟨entry, member, rfl⟩
        exact ⟨entry.2, get?_of_mem member⟩
      · rintro ⟨value, found⟩
        exact ⟨(key, value), (map.mem_entries_iff _).mpr found, rfl⟩
    -- Keys ascend, so that maps with the same keys list them in the same order.
    have keys : first.entries.map Prod.fst = second.entries.map Prod.fst := by
      refine eq_of_ascending (List.pairwise_map.mpr first.ascending)
        (List.pairwise_map.mpr second.ascending) fun key => ?_
      have here := same key
      rw [held, held]
      cases found : first.get? key <;> cases met : second.get? key <;> simp_all
    refine beq_of_map_eq keys fun entry member other present key => ?_
    have here := same entry.1
    rw [get?_of_mem member, key, get?_of_mem present] at here
    exact (Bool.and_eq_true _ _).mpr ⟨beq_iff_eq.mpr key, here⟩

end Containers

end SignalGraph
