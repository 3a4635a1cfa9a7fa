import SignalGraph.Catalog.BuiltIn
import SignalGraph.Proofs.Number.Integer
import SignalGraph.Proofs.Number.Numeral

/-! Integers entered for a number parameter.

An entered number is held as a double, so an integer is first rounded to the nearest integer that is
the value of a double. The result is an integer again as far as signed integers of 64 bits reach,
and a float beyond that. It makes no difference whether the integer is entered as a number or as
text.
-/

set_option autoImplicit false

namespace SignalGraph

namespace Parameter

theorem enteredNumber?_string (text : String) :
    enteredNumber? (Json.string text).tree = Numeral.double? (trim text) := rfl

variable {parameter : Parameter} (number : parameter.type = .number)
include number

theorem coerce_of_entered {value : Json} {x : Binary64}
    (entered : enteredNumber? value.tree = some x) (bounded : x.IsFinite) :
    parameter.coerce value = numberValue x := by
  have accepted : parameter.accept? value = some (numberValue x) := by
    simp only [accept?, number, entered, Option.filter]
    rw [if_pos (decide_eq_true bounded), Option.map_some]
  rw [coerce, accepted, Option.getD_some]

theorem coerce_of_entered_integer {value : Json} {n : Int} (inRange : InIntegerRange n)
    (entered : enteredNumber? value.tree = some (.ofInt n)) :
    parameter.coerce value = numberValue (.ofInt n) := by
  generalize rounded : Binary64.ofInt n = x at entered
  exact coerce_of_entered number entered (Binary64.isFinite_of_ofInt inRange rounded)

theorem coerce_integer {n : Int} (inRange : InIntegerRange n) :
    parameter.coerce (.integer n) = numberValue (.ofInt n) := by
  refine coerce_of_entered_integer number inRange ?_
  rw [Json.tree_integer inRange]
  rfl

theorem coerce_toString {n : Int} (inRange : InIntegerRange n) :
    parameter.coerce (.string (toString n)) = numberValue (.ofInt n) := by
  refine coerce_of_entered_integer number inRange ?_
  rw [enteredNumber?_string, double?_toString inRange]

end Parameter

open Binary64 in
/-- What a number parameter gets for an integer that is entered. -/
structure Parameter.TakesInteger (parameter : Parameter) (n : Int) : Prop where
  nearest : ∃ near, Nearest n near ∧ parameter.coerce (.integer n) =
    if near.natAbs < power 2 63 then .integer near else .float (.ofInt near)
  text : parameter.coerce (.string (toString n)) = parameter.coerce (.integer n)
  kept : parameter.coerce (.integer n) = .integer n ↔ Holds n ∧ n.natAbs < power 2 63
  small : n.natAbs ≤ power 2 53 → parameter.coerce (.integer n) = .integer n

namespace Parameter

open Binary64

variable {parameter : Parameter}

theorem numberValue_ofInt {n : Int} (inRange : InIntegerRange n) :
    numberValue (.ofInt n) =
      if (nearestInt n).natAbs < power 2 63 then .integer (nearestInt n)
      else .float (.ofInt (nearestInt n)) := by
  rw [numberValue, toInt?_ofInt inRange, ofInt_nearestInt]

theorem numberValue_ofInt_eq_iff {n : Int} (inRange : InIntegerRange n) :
    numberValue (.ofInt n) = .integer n ↔ Holds n ∧ n.natAbs < power 2 63 := by
  rw [numberValue_ofInt inRange, ← nearestInt_eq_iff inRange]
  split
  case isTrue small =>
    rw [Json.integer_inj (inIntegerRange_of_lt small) inRange]
    exact ⟨fun same => ⟨same, same ▸ small⟩, fun held => held.1⟩
  case isFalse large =>
    rw [ofInt_nearestInt]
    generalize rounded : ofInt n = x
    have bounded := isFinite_of_ofInt inRange rounded
    refine iff_of_false (Json.integer_ne_float inRange bounded).symm ?_
    rintro ⟨same, small⟩
    rw [same] at large
    exact large small

theorem coerce_integer_eq_iff (number : parameter.type = .number) {n : Int}
    (inRange : InIntegerRange n) :
    parameter.coerce (.integer n) = .integer n ↔ Holds n ∧ n.natAbs < power 2 63 := by
  rw [coerce_integer number inRange, numberValue_ofInt_eq_iff inRange]

theorem coerce_integer_of_le (number : parameter.type = .number) {n : Int}
    (small : n.natAbs ≤ power 2 53) : parameter.coerce (.integer n) = .integer n := by
  have below : n.natAbs < power 2 63 := Nat.lt_of_le_of_lt small (by decide)
  exact (coerce_integer_eq_iff number (inIntegerRange_of_lt below)).mpr ⟨holds_of_le small, below⟩

/-- Every number goes through a double, so an integer is kept just if it is the value of one and
fits in a signed integer of 64 bits. Up to the 53rd power of two all of them do. -/
theorem coerce_takesInteger (parameter : Parameter) (number : parameter.type = .number) {n : Int}
    (inRange : InIntegerRange n) : parameter.TakesInteger n := by
  have whole := coerce_integer number inRange
  constructor
  case nearest => exact ⟨_, nearest_nearestInt inRange, by rw [whole, numberValue_ofInt inRange]⟩
  case text => rw [whole, coerce_toString number inRange]
  case kept => exact coerce_integer_eq_iff number inRange
  case small => exact coerce_integer_of_le number

theorem coerce_takesInteger_odd :
    (BuiltIn.period 14).type = .number ∧ InIntegerRange 9007199254740993 ∧
      ((BuiltIn.period 14).coerce (.integer 9007199254740993) == .integer 9007199254740992) = true ∧
      (BuiltIn.period 14).TakesInteger 9007199254740993 :=
  ⟨rfl, by decide, by decide +kernel, coerce_takesInteger _ rfl (by decide)⟩

/-- An odd integer of 54 bits is changed. -/
theorem not_coerce_integer :
    ¬∀ (parameter : Parameter) (n : Int), parameter.type = .number → InIntegerRange n →
      parameter.coerce (.integer n) = .integer n ∧
        parameter.coerce (.string (toString n)) = .integer n := by
  intro exact
  have same := (exact (BuiltIn.period 14) 9007199254740993 rfl (by decide)).1
  have differs : ((BuiltIn.period 14).coerce (.integer 9007199254740993) ==
      .integer 9007199254740993) = false := by decide +kernel
  rw [same] at differs
  exact absurd differs (by decide +kernel)

end Parameter

end SignalGraph
