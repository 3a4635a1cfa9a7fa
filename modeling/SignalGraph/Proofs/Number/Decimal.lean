import SignalGraph.Number.Decimal

/-! Decimals that denote one number, and the decimal that is written for a double.

Which double is nearest to a quotient depends on the number alone, so a zero may move between the
digits of a decimal and its exponent. The decimal that is written reads back as its double, with
either sign.
-/

set_option autoImplicit false

namespace SignalGraph

/-! ## Quotients -/

/-- Whether a rest is rounded off does not depend on the unit in which it is counted. -/
theorem roundsDown_scale (rest step low : Nat) {factor : Nat} (positive : 0 < factor) :
    2 * (rest * factor) < step * factor ∨ 2 * (rest * factor) = step * factor ∧ low % 2 = 0 ↔
      2 * rest < step ∨ 2 * rest = step ∧ low % 2 = 0 := by
  rw [← Nat.mul_assoc, Nat.mul_lt_mul_right positive, Nat.mul_left_inj (Nat.ne_of_gt positive)]

theorem nearestQuanta_scale (numerator denominator : Nat) {factor : Nat} (positive : 0 < factor) :
    nearestQuanta (numerator * factor) (denominator * factor) =
      nearestQuanta numerator denominator := by
  have quotient : numerator * factor / (denominator * factor) = numerator / denominator :=
    Nat.mul_div_mul_right numerator denominator positive
  have regroup : ∀ other, denominator * factor * other = denominator * other * factor :=
    fun other => Nat.mul_right_comm denominator factor other
  simp only [nearestQuanta, quotient, regroup, Nat.mul_div_mul_right _ _ positive,
    Nat.mul_mod_mul_right, roundsDown_scale _ _ _ positive]

/-- A count that uses no idle bit is its own nearest one. -/
theorem nearestQuanta_of_idle_dvd {quanta : Nat} (idle : power 2 (idleBits quanta) ∣ quanta) :
    nearestQuanta quanta 1 = quanta := by
  have positive := power_pos (Nat.zero_lt_two) (idleBits quanta)
  have exactly := Nat.mod_eq_zero_of_dvd idle
  simp only [nearestQuanta, Nat.div_one, Nat.one_mul, exactly, Nat.mul_zero, positive, true_or,
    if_true]
  exact Nat.div_mul_cancel idle

theorem nearestQuanta_quanta (magnitude : Magnitude) :
    nearestQuanta magnitude.quanta 1 = magnitude.quanta :=
  nearestQuanta_of_idle_dvd magnitude.idle_dvd

namespace Binary64

variable {negative : Bool} {numerator denominator : Nat}

theorem round_eq_finite_iff {magnitude : Magnitude} :
    round negative numerator denominator = finite negative magnitude ↔
      nearestQuanta numerator denominator = magnitude.quanta := by
  unfold round
  split
  · simp [Magnitude.ext_iff]
  · rename_i large
    constructor
    · exact nofun
    · intro same
      exact absurd (same ▸ magnitude.lt_bound) large

theorem round_congr {otherNumerator otherDenominator : Nat}
    (same : nearestQuanta numerator denominator = nearestQuanta otherNumerator otherDenominator) :
    round negative numerator denominator = round negative otherNumerator otherDenominator := by
  simp only [round, same]

theorem round_scale (negative : Bool) (numerator denominator : Nat) {factor : Nat}
    (positive : 0 < factor) :
    round negative (numerator * factor) (denominator * factor) =
      round negative numerator denominator :=
  round_congr (nearestQuanta_scale numerator denominator positive)

/-- A magnitude in finer steps is rounded to itself. -/
theorem round_quanta (magnitude : Magnitude) {factor : Nat} (positive : 0 < factor) :
    round negative (magnitude.quanta * factor) factor = finite negative magnitude := by
  rw [round_eq_finite_iff]
  have scaled := nearestQuanta_scale magnitude.quanta 1 positive
  rw [Nat.one_mul] at scaled
  rw [scaled, nearestQuanta_quanta]

end Binary64

/-! ## Digits and exponent -/

theorem digitCount_le_iff {n count : Nat} (positive : 0 < count) :
    digitCount n ≤ count ↔ n < power 10 count :=
  Nat.length_toDigits_le_iff (by decide) positive

theorem digitCount_mul_ten {n : Nat} (nonzero : n ≠ 0) :
    digitCount (n * 10) = digitCount n + 1 := by
  have split := Nat.toDigits_append_toDigits (b := 10) (n := n) (d := 0) (by decide)
    (Nat.pos_of_ne_zero nonzero) (by decide)
  rw [Nat.add_zero, Nat.mul_comm] at split
  rw [digitCount, ← split, List.length_append]
  rfl

namespace Decimal

variable {negative : Bool} {digits : Nat}

theorem quotient_ofNat (digits place : Nat) :
    quotient ⟨digits, .ofNat place⟩ = (digits * power 10 place * quantaPerUnit, 1) := rfl

theorem quotient_negSucc (digits place : Nat) :
    quotient ⟨digits, .negSucc place⟩ = (digits * quantaPerUnit, power 10 (place + 1)) := rfl

/-- A zero at the end of the digits counts like one more in the exponent. -/
theorem round_quotient_ten (digits : Nat) (exponent : Int) :
    Binary64.round negative (quotient ⟨digits * 10, exponent⟩).1
        (quotient ⟨digits * 10, exponent⟩).2 =
      Binary64.round negative (quotient ⟨digits, exponent + 1⟩).1
        (quotient ⟨digits, exponent + 1⟩).2 := by
  have finer : digits * 10 * quantaPerUnit = digits * quantaPerUnit * 10 :=
    Nat.mul_right_comm _ _ _
  match exponent with
  | .ofNat place =>
    have next : Int.ofNat place + 1 = .ofNat (place + 1) := rfl
    have same : digits * 10 * power 10 place = digits * power 10 (place + 1) := by
      rw [power_succ, Nat.mul_assoc, Nat.mul_comm 10]
    rw [next, quotient_ofNat, quotient_ofNat, same]
  | .negSucc 0 =>
    have next : Int.negSucc 0 + 1 = .ofNat 0 := rfl
    rw [next, quotient_ofNat, quotient_negSucc, power_succ, power_zero, Nat.mul_one, finer]
    exact Binary64.round_scale negative _ 1 (by decide)
  | .negSucc (place + 1) =>
    have next : Int.negSucc (place + 1) + 1 = .negSucc place := rfl
    rw [next, quotient_negSucc, quotient_negSucc, power_succ 10 (place + 1), finer]
    exact Binary64.round_scale negative _ _ (by decide)

theorem toBinary64_ten (digits : Nat) (exponent : Int) :
    toBinary64 negative ⟨digits * 10, exponent⟩ = toBinary64 negative ⟨digits, exponent + 1⟩ := by
  by_cases zero : digits = 0
  · simp [toBinary64, zero]
  have place : leadingPlace ⟨digits * 10, exponent⟩ = leadingPlace ⟨digits, exponent + 1⟩ := by
    simp only [leadingPlace, digitCount_mul_ten zero]
    omega
  have nonzero : digits * 10 ≠ 0 := Nat.mul_ne_zero zero (by decide)
  simp only [toBinary64, place, zero, nonzero, round_quotient_ten]

/-- Zeros at the end of the digits count like as many in the exponent. -/
theorem toBinary64_shift (digits zeros : Nat) (exponent : Int) :
    toBinary64 negative ⟨digits * power 10 zeros, exponent⟩ =
      toBinary64 negative ⟨digits, exponent + zeros⟩ := by
  induction zeros generalizing exponent with
  | zero => simp [power_zero]
  | succ zeros ih =>
    rw [power_succ, ← Nat.mul_assoc, toBinary64_ten, ih]
    congr 2
    omega

theorem toBinary64_normalize (fuel : Nat) (decimal : Decimal) :
    (decimal.normalize fuel).toBinary64 negative = decimal.toBinary64 negative := by
  induction fuel generalizing decimal with
  | zero => rfl
  | succ fuel ih =>
    unfold normalize
    split
    case isFalse => rfl
    case isTrue trailing =>
      rw [ih, ← toBinary64_ten, Nat.div_mul_cancel (Nat.dvd_of_mod_eq_zero trailing.2)]

/-! ## Signs -/

theorem toBinary64_eq_finite_iff {decimal : Decimal} {magnitude : Magnitude} :
    decimal.toBinary64 negative = .finite negative magnitude ↔ magnitude.ReadsBack decimal := by
  unfold Magnitude.ReadsBack toBinary64 Binary64.zero
  split
  · rw [Binary64.round_eq_finite_iff, Binary64.round_eq_finite_iff]
  · split
    · simp
    · rw [Binary64.round_eq_finite_iff, Binary64.round_eq_finite_iff]

end Decimal

/-! ## The decimal that is written -/

namespace Magnitude

variable {magnitude : Magnitude}

theorem ReadsBack.zero (empty : magnitude.quanta = 0) (exponent : Int) :
    magnitude.ReadsBack ⟨0, exponent⟩ := by
  unfold ReadsBack Decimal.toBinary64 Binary64.zero
  rw [if_pos (Or.inl rfl), Binary64.round_eq_finite_iff, empty]
  decide

theorem readsBack_of_onGrid? {exponent : Int} {decimal : Decimal}
    (found : magnitude.onGrid? exponent = some decimal) : magnitude.ReadsBack decimal := by
  unfold onGrid? at found
  -- Whichever of the two neighbours is tried first, it is taken only if it reads back.
  have tried : ∀ nearer other : Decimal,
      (if magnitude.ReadsBack nearer then some nearer
        else if magnitude.ReadsBack other then some other else none) = some decimal →
      magnitude.ReadsBack decimal := by
    intro nearer other found
    split at found
    · cases found
      assumption
    · split at found
      · cases found
        assumption
      · cases found
  exact tried _ _ found

/-- The exact decimal lies within the reach of doubles. -/
theorem leadingPlace_exactDecimal (positive : magnitude.quanta ≠ 0) :
    -323 ≤ magnitude.exactDecimal.leadingPlace ∧ magnitude.exactDecimal.leadingPlace ≤ 309 := by
  have low : 750 < digitCount (magnitude.quanta * power 5 1074) := by
    rw [← Nat.not_le, digitCount_le_iff (by decide), Nat.not_lt]
    have least : power 10 750 ≤ power 5 1074 := by decide +kernel
    exact Nat.le_trans least (Nat.le_mul_of_pos_left _ (Nat.pos_of_ne_zero positive))
  have high : digitCount (magnitude.quanta * power 5 1074) ≤ 1383 := by
    rw [digitCount_le_iff (by decide)]
    have most : quantaBound * power 5 1074 ≤ power 10 1383 := by decide +kernel
    exact Nat.lt_of_lt_of_le
      (Nat.mul_lt_mul_of_pos_right magnitude.lt_bound (power_pos (by decide) _)) most
  simp only [Decimal.leadingPlace, exactDecimal]
  omega

theorem readsBack_exactDecimal (positive : magnitude.quanta ≠ 0) :
    magnitude.ReadsBack magnitude.exactDecimal := by
  obtain ⟨low, high⟩ := leadingPlace_exactDecimal positive
  have digits : magnitude.exactDecimal.digits ≠ 0 :=
    Nat.mul_ne_zero positive (Nat.ne_of_gt (power_pos (by decide) _))
  have quotient : magnitude.exactDecimal.quotient =
      (magnitude.quanta * power 10 1074, power 10 1074) := by
    have factors : power 5 1074 * quantaPerUnit = power 10 1074 := by decide +kernel
    have exponent : (-1074 : Int) = .negSucc 1073 := rfl
    rw [exactDecimal, exponent, Decimal.quotient_negSucc, Nat.mul_assoc, factors]
  rw [ReadsBack, Decimal.toBinary64, if_neg (by omega), if_neg (by omega), quotient]
  dsimp only
  exact Binary64.round_quanta magnitude (power_pos (by decide) 1074)

theorem readsBack_shortestDecimal (magnitude : Magnitude) :
    magnitude.ReadsBack magnitude.shortestDecimal := by
  unfold shortestDecimal
  split
  case isTrue empty => exact .zero empty 0
  case isFalse positive =>
    rw [ReadsBack, Decimal.trimmed, Decimal.toBinary64_normalize]
    cases found : (List.range 17).findSome? fun n =>
        magnitude.onGrid? (magnitude.leadingPlace - (n + 1 : Nat)) with
    | none => exact readsBack_exactDecimal positive
    | some decimal =>
      obtain ⟨_, _, onGrid⟩ := List.exists_of_findSome?_eq_some found
      exact readsBack_of_onGrid? onGrid

end Magnitude

end SignalGraph
