import SignalGraph.NodeId

/-! The form of the ids that are made for nodes: a word and a UUID in lower case.

Five groups of digits of fixed lengths with dashes between them make the UUID, so all ids of the
form are equally long. The version and the variant of the UUID play no part in that.
-/

set_option autoImplicit false

namespace SignalGraph.NodeId

/-- A digit to the base 16, in lower case. -/
def isLowerDigit (c : Char) : Bool := c.isDigit || ('a' ≤ c && c ≤ 'f')

/-- A UUID in lower case, of any version. -/
def Grouped (text : List Char) : Prop :=
  ∃ groups : List (List Char), groups.map List.length = [8, 4, 4, 4, 12] ∧
    (∀ group ∈ groups, ∀ c ∈ group, isLowerDigit c = true) ∧ text = ['-'].intercalate groups

/-- The id is the word with a UUID in lower case behind it. -/
def Formed (id : String) : Prop :=
  ∃ text, Grouped text ∧ id = "node-" ++ String.ofList text

theorem Grouped.length {text : List Char} (grouped : Grouped text) : text.length = 36 := by
  obtain ⟨groups, lengths, -, rfl⟩ := grouped
  simp only [List.map_eq_cons_iff, List.map_eq_nil_iff] at lengths
  obtain ⟨first, _, rfl, firstLength, second, _, rfl, secondLength, third, _, rfl, thirdLength,
    fourth, _, rfl, fourthLength, fifth, _, rfl, fifthLength, rfl⟩ := lengths
  simp [firstLength, secondLength, thirdLength, fourthLength, fifthLength]

theorem Formed.length {id : String} (formed : Formed id) : id.length = 41 := by
  obtain ⟨text, grouped, rfl⟩ := formed
  have word : "node-".length = 5 := rfl
  rw [String.length_append, word, String.length_ofList, grouped.length]

/-! ## Made ids -/

theorem isLowerDigit_digitChar : ∀ value < 16, isLowerDigit (Nat.digitChar value) = true := by
  decide

theorem isLowerDigit_digit (random place : Nat) : isLowerDigit (digit random place) = true := by
  refine isLowerDigit_digitChar _ ?_
  have reduced : random / power 16 (31 - place) % 16 < 16 := Nat.mod_lt _ (by decide)
  split
  · decide
  · split <;> omega

theorem isLowerDigit_of_mem_digits {random place length : Nat} {c : Char}
    (member : c ∈ digits random place length) : isLowerDigit c = true := by
  obtain ⟨offset, -, rfl⟩ := List.mem_map.mp member
  exact isLowerDigit_digit random (place + offset)

theorem length_digits (random place length : Nat) : (digits random place length).length = length := by
  rw [digits, List.length_map, List.length_range]

theorem grouped_uuid (random : Nat) : Grouped (uuid random) := by
  refine ⟨[digits random 0 8, digits random 8 4, digits random 12 4, digits random 16 4,
    digits random 20 12], ?_, ?_, ?_⟩
  · simp only [List.map_cons, List.map_nil, length_digits]
  · intro group member c digit
    simp only [List.mem_cons, List.not_mem_nil, or_false] at member
    obtain rfl | rfl | rfl | rfl | rfl := member <;> exact isLowerDigit_of_mem_digits digit
  · simp [uuid]

theorem formed_ofRandom (random : Nat) : Formed (ofRandom random) :=
  ⟨uuid random, grouped_uuid random, rfl⟩

end SignalGraph.NodeId
