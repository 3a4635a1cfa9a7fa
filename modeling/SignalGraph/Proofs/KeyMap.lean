import SignalGraph.KeyMap
import Mathlib.Data.List.Nodup

/-! Maps as their lookups: equal lookups mean equal maps, and what laying entries over a map does
to every lookup. Lists of items with keys of their own are looked up the same way, and texts in
ascending order are told by which they are.
-/

set_option autoImplicit false

namespace SignalGraph

variable {α : Type}

/-- With distinct keys, an item is found under its key. -/
theorem find?_key_of_mem {β : Type} [DecidableEq β] {key : α → β} {items : List α}
    (distinct : (items.map key).Nodup) {item : α} (member : item ∈ items) :
    items.find? (fun other => key other = key item) = some item := by
  cases found : items.find? (fun other => key other = key item) with
  | none => simpa using List.find?_eq_none.mp found item member
  | some other =>
    have same : key other = key item := by simpa using List.find?_some found
    rw [List.inj_on_of_nodup_map distinct (List.mem_of_find?_eq_some found) member same]

theorem find?_key_eq_some_iff {β : Type} [DecidableEq β] {key : α → β} {items : List α}
    (distinct : (items.map key).Nodup) {value : β} {item : α} :
    items.find? (fun other => key other = value) = some item ↔ item ∈ items ∧ key item = value := by
  constructor
  · intro found
    exact ⟨List.mem_of_find?_eq_some found, by simpa using List.find?_some found⟩
  · rintro ⟨member, rfl⟩
    exact find?_key_of_mem distinct member

theorem nodup_eraseDups {α : Type} [BEq α] [LawfulBEq α] (items : List α) :
    items.eraseDups.Nodup := by
  -- The rest is filtered before its own copies are erased, so the induction is on the length.
  induction length : items.length using Nat.strongRecOn generalizing items with
  | ind count ih =>
    cases items with
    | nil => exact .nil
    | cons item rest =>
      rw [List.eraseDups_cons, List.nodup_cons]
      constructor
      · intro again
        have differs := (List.mem_filter.mp (List.mem_eraseDups.mp again)).2
        simp at differs
      · refine ih _ ?_ _ rfl
        have shorter := List.length_filter_le (fun other => !other == item) rest
        rw [List.length_cons] at length
        omega

theorem ascending_mergeSort {texts : List String} (distinct : texts.Nodup) :
    (texts.mergeSort fun first second => decide (first ≤ second)).Pairwise (· < ·) := by
  have sorted : (texts.mergeSort fun first second => decide (first ≤ second)).Pairwise
      fun first second => decide (first ≤ second) = true := by
    refine List.pairwise_mergeSort ?_ ?_ _
    · intro first second third before after
      simp only [decide_eq_true_eq] at before after ⊢
      exact String.le_trans before after
    · intro first second
      simpa using String.le_total first second
  refine (sorted.and ((List.mergeSort_perm _ _).nodup_iff.mpr distinct)).imp ?_
  rintro first second ⟨before, different⟩
  exact Std.lt_of_le_of_ne (of_decide_eq_true before) different

theorem nodup_of_ascending {texts : List String} (ascends : texts.Pairwise (· < ·)) :
    texts.Nodup := by
  refine ascends.imp ?_
  rintro first _ before rfl
  exact String.lt_irrefl _ before

/-- Ascending texts are told by which they are. -/
theorem eq_of_ascending {first second : List String} (ascends : first.Pairwise (· < ·))
    (otherAscends : second.Pairwise (· < ·)) (same : ∀ text, text ∈ first ↔ text ∈ second) :
    first = second := by
  have permuted := (List.perm_ext_iff_of_nodup (nodup_of_ascending ascends)
    (nodup_of_ascending otherAscends)).mpr same
  apply List.Perm.eq_of_pairwise _ ascends otherAscends permuted
  intro left right _ _ less greater
  exact absurd (String.lt_trans less greater) (String.lt_irrefl _)

/-- No entry of an ascending list has a key that comes before the first. -/
theorem lookup_eq_none_of_below {key : String} {entries : List (String × α)}
    (below : ∀ entry ∈ entries, key < entry.1) : entries.lookup key = none := by
  rw [List.lookup_eq_none_iff]
  intro entry member
  have different : key ≠ entry.1 := fun same => String.lt_irrefl _ (same ▸ below entry member)
  simpa using different

/-- Values that change with their keys are found under the same keys. -/
theorem lookup_map_value {β : Type} (change : String → α → β) (entries : List (String × α))
    (key : String) :
    (entries.map fun (key, value) => (key, change key value)).lookup key =
      (entries.lookup key).map (change key) := by
  induction entries with
  | nil => rfl
  | cons entry rest ih =>
    rw [List.map_cons, lookup_cons_eq, lookup_cons_eq, ih]
    by_cases same : key = entry.1
    · simp [same]
    · simp [same]

namespace KeyMap

theorem mem_entries_iff (map : KeyMap α) (entry : String × α) :
    entry ∈ map.entries ↔ map.get? entry.1 = some entry.2 := by
  constructor
  · exact get?_of_mem
  · intro found
    obtain ⟨before, after, split, -⟩ := List.lookup_eq_some_iff.mp found
    rw [split]
    exact List.mem_append_right _ List.mem_cons_self

theorem nodup_entries (map : KeyMap α) : map.entries.Nodup := by
  apply map.ascending.imp
  intro first second less same
  exact String.lt_irrefl _ (same ▸ less)

theorem eq_of_get? {first second : KeyMap α} (same : ∀ key, first.get? key = second.get? key) :
    first = second := by
  have members : ∀ entry, entry ∈ first.entries ↔ entry ∈ second.entries := fun entry => by
    rw [mem_entries_iff, mem_entries_iff, same]
  have permuted := (List.perm_ext_iff_of_nodup first.nodup_entries second.nodup_entries).mpr members
  apply KeyMap.ext
  apply List.Perm.eq_of_pairwise _ first.ascending second.ascending permuted
  intro left right _ _ less greater
  exact absurd (String.lt_trans less greater) (String.lt_irrefl _)

theorem mem_of_mem_insertEntry {key : String} {value : α} {entries : List (String × α)}
    {entry : String × α} (member : entry ∈ insertEntry key value entries) :
    entry = (key, value) ∨ entry ∈ entries := by
  induction entries with
  | nil => exact Or.inl (List.mem_singleton.mp member)
  | cons first rest ih =>
    unfold insertEntry at member
    split at member
    · exact List.mem_cons.mp member
    · split at member
      · exact (List.mem_cons.mp member).imp_right (List.mem_cons_of_mem first)
      · rcases List.mem_cons.mp member with rfl | member
        · exact Or.inr List.mem_cons_self
        · exact (ih member).imp_right (List.mem_cons_of_mem first)

theorem mem_of_mem_insertAll {map : KeyMap α} {entries : List (String × α)} {entry : String × α}
    (member : entry ∈ (map.insertAll entries).entries) : entry ∈ map.entries ∨ entry ∈ entries := by
  induction entries generalizing map with
  | nil => exact Or.inl member
  | cons first rest ih =>
    rcases ih member with inserted | later
    · rcases mem_of_mem_insertEntry inserted with rfl | old
      · exact Or.inr List.mem_cons_self
      · exact Or.inl old
    · exact Or.inr (List.mem_cons_of_mem first later)

/-- The entries of a map are among those that it is made of. -/
theorem mem_of_mem_ofList {entries : List (String × α)} {entry : String × α}
    (member : entry ∈ (ofList entries).entries) : entry ∈ entries :=
  (mem_of_mem_insertAll member).resolve_left List.not_mem_nil

theorem isEmpty_iff (map : KeyMap α) : map.isEmpty = true ↔ map = .empty := by
  rw [isEmpty, List.isEmpty_iff, KeyMap.ext_iff]
  rfl

theorem get?_erase_self (map : KeyMap α) (key : String) : (map.erase key).get? key = none := by
  rw [get?, erase, List.lookup_eq_none_iff]
  intro entry member
  have different : entry.1 ≠ key := by simpa using (List.mem_filter.mp member).2
  simpa using different.symm

theorem get?_insertAll (map : KeyMap α) {entries : List (String × α)} (ordered : Ascending entries)
    (key : String) : (map.insertAll entries).get? key = (entries.lookup key).or (map.get? key) := by
  induction entries generalizing map with
  | nil => rfl
  | cons entry rest ih =>
    obtain ⟨below, ordered⟩ := List.pairwise_cons.mp ordered
    have step : map.insertAll (entry :: rest) = (map.insert entry.1 entry.2).insertAll rest := rfl
    rw [step, ih _ ordered, get?_insert, lookup_cons_eq]
    by_cases same : key = entry.1
    · rw [if_pos same, if_pos same, same, lookup_eq_none_of_below below]
      rfl
    · rw [if_neg same, if_neg same]

theorem get?_union (map later : KeyMap α) (key : String) :
    (map.union later).get? key = (later.get? key).or (map.get? key) :=
  map.get?_insertAll later.ascending key

/-- Entries that ascend already are the entries of their map. -/
theorem ofList_eq {entries : List (String × α)} (ordered : Ascending entries) :
    ofList entries = ⟨entries, ordered⟩ := by
  apply eq_of_get?
  intro key
  rw [ofList, get?_insertAll _ ordered, get?_empty, Option.or_none]
  rfl

theorem contains_insertAll {map : KeyMap α} {entries : List (String × α)}
    (ordered : Ascending entries) {key : String} (held : map.contains key = true) :
    (map.insertAll entries).contains key = true := by
  rw [contains, get?_insertAll _ ordered, Option.isSome_or, Bool.or_eq_true]
  exact Or.inr held

/-- A map swallows another that has no keys of its own. -/
theorem union_eq_right_iff (map later : KeyMap α) :
    map.union later = later ↔ ∀ key, map.contains key = true → later.contains key = true := by
  constructor
  · intro same key held
    rw [← same]
    exact contains_insertAll later.ascending held
  · intro keys
    apply eq_of_get?
    intro key
    rw [get?_union]
    cases found : later.get? key with
    | some value => rfl
    | none =>
      have missing : map.contains key ≠ true := fun held => by
        simpa [contains, found] using keys key held
      simpa [contains] using missing

theorem contains_union_left {map : KeyMap α} (later : KeyMap α) {key : String}
    (held : map.contains key = true) : (map.union later).contains key = true :=
  contains_insertAll later.ascending held

end KeyMap

end SignalGraph
