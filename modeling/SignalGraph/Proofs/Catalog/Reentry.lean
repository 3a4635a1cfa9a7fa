import SignalGraph.Proofs.Catalog.Conforming
import SignalGraph.Proofs.Catalog.Integers

/-! Values that are entered once more.

What a parameter makes of a value that it accepts, it keeps from then on. A default is handed out as
it was declared, so that a whole number held as a float becomes an integer when it is entered. After
that nothing changes.
-/

set_option autoImplicit false

namespace SignalGraph

/-- The value is a whole number for which an integer is written. -/
def Binary64.IsWhole (x : Binary64) : Prop := ∃ n, x.toInt? = some n ∧ n.natAbs < power 2 63

theorem Binary64.IsWhole.isFinite {x : Binary64} (whole : x.IsWhole) : x.IsFinite := by
  obtain ⟨n, value, -⟩ := whole
  obtain ⟨negative, magnitude, rfl, -⟩ := quanta_of_toInt? value
  trivial

/-- A whole number is held as a float. -/
def Json.IsWholeFloat (value : Json) : Prop := ∃ x, value = .float x ∧ x.IsWhole

namespace Parameter

variable {parameter : Parameter} {value taken : Json}

theorem coerce_of_accept? (accepted : parameter.accept? value = some taken) :
    parameter.coerce value = taken := by
  rw [coerce, accepted, Option.getD_some]

theorem coerce_of_refused (refused : parameter.accept? value = none) :
    parameter.coerce value = parameter.fallback := by
  rw [coerce, refused, Option.getD_none]

/-! ## Numbers -/

theorem numberValue_of_whole {x : Binary64} {n : Int} (value : x.toInt? = some n)
    (small : n.natAbs < power 2 63) : numberValue x = .integer n := by
  simp only [numberValue, value, if_pos small]

theorem numberValue_of_not_whole {x : Binary64} (broken : ¬x.IsWhole) :
    numberValue x = .float x := by
  unfold numberValue
  split
  case h_1 n value => exact if_neg fun small => broken ⟨n, value, small⟩
  case h_2 => rfl

theorem coerce_float (number : parameter.type = .number) {x : Binary64} (bounded : x.IsFinite) :
    parameter.coerce (.float x) = numberValue x := by
  refine coerce_of_entered number ?_ bounded
  rw [Json.tree_float bounded]
  rfl

theorem coerce_numberValue (number : parameter.type = .number) {x : Binary64}
    (bounded : x.IsFinite) : parameter.coerce (numberValue x) = numberValue x := by
  by_cases whole : x.IsWhole
  · -- The integer that is written is the value of a double, so it is kept.
    obtain ⟨n, value, small⟩ := whole
    rw [numberValue_of_whole value small, coerce_integer_eq_iff number (inIntegerRange_of_lt small)]
    exact ⟨⟨x, value⟩, small⟩
  · rw [numberValue_of_not_whole whole, coerce_float number bounded,
      numberValue_of_not_whole whole]

/-! ## Twice and three times -/

/-- A value that was accepted is accepted as it is. -/
theorem coerce_accepted (accepted : parameter.accept? value = some taken) :
    parameter.coerce taken = taken := by
  unfold accept? at accepted
  cases type : parameter.type with
  | number =>
    simp only [type] at accepted
    obtain ⟨x, entered, rfl⟩ := Option.map_eq_some_iff.mp accepted
    exact coerce_numberValue type (by simpa using (Option.filter_eq_some_iff.mp entered).2)
  | boolean =>
    simp only [type] at accepted
    obtain ⟨choice, -, rfl⟩ := Option.map_eq_some_iff.mp accepted
    exact coerce_of_accept? (by simp [accept?, type, enteredBoolean?, Json.bool])
  | select =>
    refine coerce_of_accept? ?_
    simp only [type] at accepted
    split at accepted
    case h_1 chosen options _ offered =>
      split at accepted
      case isTrue among =>
        cases accepted
        simp [accept?, type, offered, among, Json.string]
      case isFalse => cases accepted
    case h_2 chosen _ free =>
      cases accepted
      simp [accept?, type, free, Json.string]
    case h_3 => cases accepted
  | text =>
    refine coerce_of_accept? ?_
    simp only [type] at accepted
    split at accepted
    case h_2 => cases accepted
    all_goals
      cases accepted
      simp [accept?, type, Json.string]

/-- A value that was entered twice stays as it is. -/
theorem coerce_thrice (parameter : Parameter) (value : Json) :
    parameter.coerce (parameter.coerce (parameter.coerce value)) =
      parameter.coerce (parameter.coerce value) := by
  cases accepted : parameter.accept? value with
  | some taken =>
    rw [coerce_of_accept? accepted, coerce_accepted accepted, coerce_accepted accepted]
  | none =>
    rw [coerce_of_refused accepted]
    cases again : parameter.accept? parameter.fallback with
    | some taken => rw [coerce_of_accept? again, coerce_accepted again]
    | none => rw [coerce_of_refused again, coerce_of_refused again]

theorem coerce_twice_iff (parameter : Parameter) (value : Json) :
    parameter.coerce (parameter.coerce value) = parameter.coerce value ↔
      (parameter.accept? value = none →
        parameter.coerce parameter.fallback = parameter.fallback) := by
  cases accepted : parameter.accept? value with
  | some taken =>
    rw [coerce_of_accept? accepted]
    exact iff_of_true (coerce_accepted accepted) nofun
  | none => rw [coerce_of_refused accepted, forall_prop_of_true rfl]

/-! ## Defaults -/

/-- A value of the declared type is accepted as it is, numbers apart. -/
theorem accept?_of_conforms (other : parameter.type ≠ .number)
    (conforms : parameter.conforms value = true) : parameter.accept? value = some value := by
  have itself : ∀ taken : Json, value.tree = taken.tree → taken = value :=
    fun _ same => (Json.ext same).symm
  unfold Parameter.conforms at conforms
  cases type : parameter.type with
  | number => exact absurd type other
  | boolean =>
    cases tree : value.tree with
    | bool choice => simp [accept?, type, tree, enteredBoolean?, itself (.bool choice) tree]
    | _ => simp [type, tree] at conforms
  | select =>
    cases tree : value.tree with
    | string chosen =>
      rw [type, tree, Option.any_eq_true] at conforms
      obtain ⟨options, offered, among⟩ := conforms
      have among : chosen ∈ options := of_decide_eq_true among
      simp [accept?, type, tree, offered, among, itself (.string chosen) tree]
    | _ => simp [type, tree] at conforms
  | text =>
    cases tree : value.tree with
    | string text => simp [accept?, type, tree, itself (.string text) tree]
    | _ => simp [type, tree] at conforms

theorem accept?_eq_none_iff (number : parameter.type = .number) :
    parameter.accept? value = none ↔ ∀ x, enteredNumber? value.tree = some x → ¬x.IsFinite := by
  simp [accept?, number, Option.filter_eq_none_iff]

/-- No finite number is entered for a number, and its default is a whole one held as a float. -/
structure Retypes (parameter : Parameter) (value : Json) : Prop where
  number : parameter.type = .number
  unread : ∀ x, enteredNumber? value.tree = some x → ¬x.IsFinite
  default : ∃ x, parameter.default = some (.float x) ∧ x.IsWhole

/-- A default that is an integer is small enough to be kept by a double. -/
def hasPlainDefault (parameter : Parameter) : Bool :=
  parameter.default.all fun value =>
    match value.tree with
    | .integer n => n.natAbs ≤ power 2 53
    | _ => true

theorem number_of_conforms_float {x : Binary64} (bounded : x.IsFinite)
    (conforms : parameter.conforms (.float x) = true) : parameter.type = .number := by
  unfold Parameter.conforms at conforms
  rw [Json.tree_float bounded] at conforms
  cases type : parameter.type <;> simp [type] at conforms ⊢

theorem coerce_wholeFloat (number : parameter.type = .number) {x : Binary64} {n : Int}
    (whole : x.toInt? = some n) (small : n.natAbs < power 2 63) :
    parameter.coerce (.float x) = .integer n := by
  have bounded : x.IsFinite := Binary64.IsWhole.isFinite ⟨n, whole, small⟩
  rw [coerce_float number bounded, numberValue_of_whole whole small]

section Sound

variable (sound : parameter.isSound = true) (plain : parameter.hasPlainDefault = true)
include sound plain

theorem coerce_fallback (other : ¬parameter.fallback.IsWholeFloat) :
    parameter.coerce parameter.fallback = parameter.fallback := by
  obtain ⟨default, declared, conforms⟩ := (Option.any_eq_true _ _).mp sound
  have itself : ∀ taken : Json, default.tree = taken.tree → default = taken :=
    fun _ same => Json.ext same
  rw [fallback, declared, Option.getD_some] at other ⊢
  by_cases number : parameter.type = .number
  · cases tree : default.tree with
    | integer n =>
      have small : n.natAbs ≤ power 2 53 := by
        simpa [hasPlainDefault, declared, tree] using plain
      have inRange : InIntegerRange n := inIntegerRange_of_lt (Nat.lt_of_le_of_lt small (by decide))
      rw [itself (.integer n) (tree.trans (Json.tree_integer inRange).symm)]
      exact coerce_integer_of_le number small
    | float x =>
      have bounded : x.IsFinite := by
        simpa [Parameter.conforms, number, tree] using conforms
      obtain rfl := itself (.float x) (tree.trans (Json.tree_float bounded).symm)
      rw [coerce_float number bounded, numberValue_of_not_whole fun whole => other ⟨x, rfl, whole⟩]
    | _ => simp [Parameter.conforms, number, tree] at conforms
  · exact coerce_of_accept? (accept?_of_conforms number conforms)

/-- What was entered stays as it is, unless it is a whole number that is held as a float. -/
theorem coerce_again_iff (value : Json) :
    parameter.coerce (parameter.coerce value) = parameter.coerce value ↔
      ¬(parameter.coerce value).IsWholeFloat := by
  constructor
  · rintro same ⟨x, float, n, whole, small⟩
    have bounded : x.IsFinite := Binary64.IsWhole.isFinite ⟨n, whole, small⟩
    have conforms := conforms_coerce sound value
    rw [float] at same conforms
    rw [coerce_wholeFloat (number_of_conforms_float bounded conforms) whole small] at same
    exact Json.integer_ne_float (inIntegerRange_of_lt small) bounded same
  · intro other
    refine (coerce_twice_iff parameter value).mpr fun refused => coerce_fallback sound plain ?_
    exact coerce_of_refused refused ▸ other

/-- It is the default that is a whole number held as a float, never what was accepted. -/
theorem coerce_isWholeFloat_iff (value : Json) :
    (parameter.coerce value).IsWholeFloat ↔ parameter.Retypes value := by
  constructor
  · intro whole
    have refused : parameter.accept? value = none := by
      -- What was accepted is accepted again, so it is none that would be changed.
      refine Option.eq_none_iff_forall_ne_some.mpr fun taken accepted => ?_
      refine (coerce_again_iff sound plain value).mp ?_ whole
      rw [coerce_of_accept? accepted, coerce_accepted accepted]
    obtain ⟨x, float, whole⟩ := whole
    have conforms := conforms_coerce sound value
    rw [float] at conforms
    have number := number_of_conforms_float whole.isFinite conforms
    obtain ⟨default, declared, -⟩ := (Option.any_eq_true _ _).mp sound
    rw [coerce_of_refused refused, fallback, declared, Option.getD_some] at float
    exact ⟨number, (accept?_eq_none_iff number).mp refused, x, float ▸ declared, whole⟩
  · rintro ⟨number, unread, x, declared, whole⟩
    rw [coerce_of_refused ((accept?_eq_none_iff number).mpr unread), fallback, declared]
    exact ⟨x, rfl, whole⟩

end Sound

/-- What a value becomes when it is entered, and then entered again as it is shown. -/
structure Reenters (parameter : Parameter) (value : Json) : Prop where
  kept : parameter.coerce (parameter.coerce value) = parameter.coerce value ↔
    ¬parameter.Retypes value
  retyped : parameter.Retypes value → ∃ x n, parameter.coerce value = .float x ∧
    x.toInt? = some n ∧ parameter.coerce (parameter.coerce value) = .integer n
  settles : parameter.coerce (parameter.coerce (parameter.coerce value)) =
    parameter.coerce (parameter.coerce value)

end Parameter

namespace BuiltIn

variable {definition : Definition} {parameter : Parameter}

theorem hasPlainDefault (member : definition ∈ definitions)
    (listed : parameter ∈ definition.parameters) : parameter.hasPlainDefault = true := by
  have all : ∀ definition ∈ definitions, ∀ parameter ∈ definition.parameters,
      parameter.hasPlainDefault = true := by decide +kernel
  exact all definition member parameter listed

theorem reenters (member : definition ∈ definitions) (listed : parameter ∈ definition.parameters)
    (value : Json) : parameter.Reenters value := by
  have sound := (BuiltIn.sound member).fallbacks parameter listed
  have plain := hasPlainDefault member listed
  have whole := Parameter.coerce_isWholeFloat_iff sound plain value
  constructor
  case kept => rw [Parameter.coerce_again_iff sound plain, whole]
  case retyped =>
    intro retypes
    obtain ⟨x, float, n, value, small⟩ := whole.mpr retypes
    refine ⟨x, n, float, value, ?_⟩
    rw [float, Parameter.coerce_wholeFloat retypes.number value small]
  case settles => exact parameter.coerce_thrice value

end BuiltIn

end SignalGraph
