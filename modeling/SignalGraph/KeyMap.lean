/-! Maps from text keys, held as a list of entries in strictly ascending key order.

Keys are ordered by code point. The order makes the entries of a map unique, so two maps with
the same lookups are equal.
-/

set_option autoImplicit false

namespace SignalGraph

variable {α : Type}

/-- Entries come in strictly ascending key order. -/
def Ascending (entries : List (String × α)) : Prop :=
  entries.Pairwise fun first second => first.1 < second.1

/-- Put an entry in its place, over an entry of the same key if there is one. -/
def insertEntry (key : String) (value : α) : List (String × α) → List (String × α)
  | [] => [(key, value)]
  | entry :: rest =>
    if key < entry.1 then (key, value) :: entry :: rest
    else if key = entry.1 then (key, value) :: rest
    else entry :: insertEntry key value rest

theorem key_of_mem_insertEntry {key : String} {value : α} {entries : List (String × α)}
    {found : String × α} (h : found ∈ insertEntry key value entries) :
    found.1 = key ∨ found ∈ entries := by
  induction entries with
  | nil => simp_all [insertEntry]
  | cons entry rest ih =>
    simp only [insertEntry] at h
    split at h
    · simp only [List.mem_cons] at h ⊢
      rcases h with h | h | h <;> simp_all
    · split at h
      · simp only [List.mem_cons] at h ⊢
        rcases h with h | h <;> simp_all
      · simp only [List.mem_cons] at h ⊢
        rcases h with h | h
        · simp [h]
        · rcases ih h with h | h <;> simp [h]

theorem ascending_insertEntry {key : String} {value : α} {entries : List (String × α)}
    (ordered : Ascending entries) : Ascending (insertEntry key value entries) := by
  induction entries with
  | nil => simp [insertEntry, Ascending]
  | cons entry rest ih =>
    have ⟨below, ordered⟩ := List.pairwise_cons.mp ordered
    simp only [insertEntry]
    split
    · rename_i before
      refine List.pairwise_cons.mpr ⟨?_, List.pairwise_cons.mpr ⟨below, ordered⟩⟩
      intro other member
      rcases List.mem_cons.mp member with rfl | member
      · exact before
      · exact String.lt_trans before (below other member)
    · split
      · rename_i same
        exact List.pairwise_cons.mpr ⟨fun other member => same ▸ below other member, ordered⟩
      · rename_i notBefore different
        refine List.pairwise_cons.mpr ⟨fun other member => ?_, ih ordered⟩
        have after : entry.1 < key := by
          rcases Decidable.em (entry.1 < key) with h | h
          · exact h
          · exact absurd (String.le_antisymm (String.not_lt.mp h) (String.not_lt.mp notBefore)) different
        rcases key_of_mem_insertEntry member with h | h
        · exact h ▸ after
        · exact below other h

theorem lookup_cons_eq (key : String) (entry : String × α) (rest : List (String × α)) :
    (entry :: rest).lookup key = if key = entry.1 then some entry.2 else rest.lookup key := by
  obtain ⟨first, value⟩ := entry
  by_cases h : key = first
  · simp [h]
  · simp [List.lookup_cons, h, beq_eq_false_iff_ne.mpr h]

theorem lookup_insertEntry (key other : String) (value : α) (entries : List (String × α)) :
    (insertEntry key value entries).lookup other =
      if other = key then some value else entries.lookup other := by
  induction entries with
  | nil => simp [insertEntry, lookup_cons_eq]
  | cons entry rest ih =>
    simp only [insertEntry]
    split
    · simp only [lookup_cons_eq]
    · split
      · rename_i same
        by_cases h : other = key <;> simp_all [lookup_cons_eq]
      · rename_i different
        by_cases h : other = entry.1
        · simp [lookup_cons_eq, h, Ne.symm different]
        · simp [lookup_cons_eq, h, ih]

theorem lookup_eq_some_of_mem {entries : List (String × α)} (ordered : Ascending entries)
    {entry : String × α} (member : entry ∈ entries) : entries.lookup entry.1 = some entry.2 := by
  induction entries with
  | nil => simp at member
  | cons first rest ih =>
    have ⟨below, ordered⟩ := List.pairwise_cons.mp ordered
    rcases List.mem_cons.mp member with rfl | member
    · simp [lookup_cons_eq]
    · have different : entry.1 ≠ first.1 := fun same =>
        String.lt_irrefl _ (same ▸ below entry member)
      simp [lookup_cons_eq, different, ih ordered member]

/-- A map from text keys. -/
@[ext]
structure KeyMap (α : Type) where
  entries : List (String × α)
  ascending : Ascending entries

namespace KeyMap

def empty : KeyMap α := ⟨[], List.Pairwise.nil⟩

instance : Inhabited (KeyMap α) := ⟨empty⟩

instance [BEq α] : BEq (KeyMap α) := ⟨fun first second => first.entries == second.entries⟩

def isEmpty (map : KeyMap α) : Bool := map.entries.isEmpty

def size (map : KeyMap α) : Nat := map.entries.length

def get? (map : KeyMap α) (key : String) : Option α := map.entries.lookup key

def contains (map : KeyMap α) (key : String) : Bool := (map.get? key).isSome

def insert (map : KeyMap α) (key : String) (value : α) : KeyMap α :=
  ⟨insertEntry key value map.entries, ascending_insertEntry map.ascending⟩

def erase (map : KeyMap α) (key : String) : KeyMap α :=
  ⟨map.entries.filter fun entry => entry.1 ≠ key, map.ascending.filter _⟩

/-- Insert entries one after another; of entries with one key the last stays. -/
def insertAll (map : KeyMap α) (entries : List (String × α)) : KeyMap α :=
  entries.foldl (fun map entry => map.insert entry.1 entry.2) map

def ofList (entries : List (String × α)) : KeyMap α := empty.insertAll entries

/-- The entries of the second map laid over those of the first. -/
def union (map later : KeyMap α) : KeyMap α := map.insertAll later.entries

@[simp]
theorem get?_empty (key : String) : (empty : KeyMap α).get? key = none := rfl

theorem get?_insert (map : KeyMap α) (key other : String) (value : α) :
    (map.insert key value).get? other = if other = key then some value else map.get? other :=
  lookup_insertEntry key other value map.entries

theorem get?_of_mem {map : KeyMap α} {entry : String × α} (member : entry ∈ map.entries) :
    map.get? entry.1 = some entry.2 :=
  lookup_eq_some_of_mem map.ascending member

end KeyMap

end SignalGraph
