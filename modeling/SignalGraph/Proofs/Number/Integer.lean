import SignalGraph.Proofs.Json.Range
import SignalGraph.Proofs.Number.Decimal

/-! The double nearest to an integer.

An integer is the value of a double if it has no more than 53 significant bits. Rounding goes to the
nearest of those values; of two equally near, to the one whose significand is even. Counting in
quanta instead of units makes no difference.
-/

set_option autoImplicit false

namespace SignalGraph

/-- The count has no more than 53 significant bits. -/
def Representable (n : Nat) : Prop := power 2 (idleBits n) ∣ n

/-! ## Bits -/

theorem log2_mul_power {n : Nat} (nonzero : n ≠ 0) (exponent : Nat) :
    (n * power 2 exponent).log2 = n.log2 + exponent := by
  have positive : 0 < power 2 exponent := power_pos (by decide) exponent
  have product : n * power 2 exponent ≠ 0 := Nat.mul_ne_zero nonzero (Nat.ne_of_gt positive)
  refine (Nat.log2_eq_iff product).mpr ⟨?_, ?_⟩
  · rw [Nat.pow_add]
    exact Nat.mul_le_mul_right _ (Nat.log2_self_le nonzero)
  · rw [Nat.add_right_comm, Nat.pow_add]
    exact Nat.mul_lt_mul_of_pos_right Nat.lt_log2_self positive

theorem representable_of_lt {n : Nat} (small : n < power 2 53) : Representable n := by
  have idle : idleBits n = 0 := by
    by_cases zero : n = 0
    · subst zero
      rfl
    · have bits := (log2_lt_iff zero 53).mpr small
      unfold idleBits
      omega
  rw [Representable, idle]
  exact Nat.one_dvd n

theorem representable_power (exponent : Nat) : Representable (power 2 exponent) := by
  rw [Representable, idleBits, log2_power]
  exact power_dvd_power 2 (Nat.sub_le exponent 52)

theorem representable_of_le {n : Nat} (small : n ≤ power 2 53) : Representable n := by
  rcases Nat.lt_or_eq_of_le small with less | rfl
  · exact representable_of_lt less
  · exact representable_power 53

/-- Zeros at the end are no significant bits. -/
theorem representable_mul_power_iff {n exponent : Nat} :
    Representable (n * power 2 exponent) ↔ Representable n := by
  by_cases zero : n = 0
  · rw [zero, Nat.zero_mul]
  have positive : 0 < power 2 exponent := power_pos (by decide) exponent
  unfold Representable idleBits
  rw [log2_mul_power zero]
  by_cases few : n.log2 ≤ 52
  · have none : n.log2 - 52 = 0 := by omega
    rw [none]
    exact iff_of_true
      (Nat.dvd_trans (power_dvd_power 2 (by omega)) (Nat.dvd_mul_left _ n)) (Nat.one_dvd n)
  · have more : n.log2 + exponent - 52 = n.log2 - 52 + exponent := by omega
    rw [more, power_add, Nat.mul_dvd_mul_iff_right positive]

/-! ## The nearest count -/

/-- A representable count no less than the leading bit of another is a multiple of its step. -/
theorem Representable.step_dvd {n other : Nat} (fits : Representable other)
    (large : power 2 n.log2 ≤ other) : power 2 (idleBits n) ∣ other := by
  have positive : other ≠ 0 := Nat.ne_of_gt (Nat.lt_of_lt_of_le (power_pos (by decide) _) large)
  have bits : n.log2 ≤ other.log2 := (Nat.le_log2 positive).mpr large
  exact Nat.dvd_trans (power_dvd_power 2 (Nat.sub_le_sub_right bits 52)) fits

/-- How far two integers are from each other. -/
def distance (first second : Int) : Nat := (first - second).natAbs

/-- No multiple of the step is nearer, and of two equally near ones it is the even multiple. -/
theorem nearestQuanta_step {n other : Nat} (multiple : power 2 (idleBits n) ∣ other) :
    distance n (nearestQuanta n 1) ≤ distance n other ∧
      (other ≠ nearestQuanta n 1 → distance n (nearestQuanta n 1) = distance n other →
        power 2 (idleBits n + 1) ∣ nearestQuanta n 1) := by
  have positive : 0 < power 2 (idleBits n) := power_pos (by decide) _
  simp only [nearestQuanta, Nat.div_one, Nat.one_mul, power_succ]
  generalize power 2 (idleBits n) = step at positive multiple
  obtain ⟨count, rfl⟩ := multiple
  have whole : step * (n / step) + n % step = n := Nat.div_add_mod n step
  have rest : n % step < step := Nat.mod_lt n positive
  -- The other multiple is no nearer than one of the two around the count.
  have apart : step * count ≤ step * (n / step) ∨ step * (n / step) + step ≤ step * count := by
    rw [← Nat.mul_succ]
    rcases Nat.lt_or_ge (n / step) count with more | less
    · exact .inr (Nat.mul_le_mul_left step more)
    · exact .inl (Nat.mul_le_mul_left step less)
  have even : ∀ low, low % 2 = 0 → step * 2 ∣ low * step := fun low half =>
    Nat.mul_comm step low ▸ Nat.mul_dvd_mul_left step (Nat.dvd_of_mod_eq_zero half)
  unfold distance
  split
  case isTrue down =>
    rw [Nat.mul_comm (n / step)]
    refine ⟨by omega, fun other tie => ?_⟩
    rw [Nat.mul_comm step (n / step)]
    exact even _ (by omega)
  case isFalse up =>
    rw [Nat.add_one_mul, Nat.mul_comm (n / step)]
    refine ⟨by omega, fun other tie => ?_⟩
    rw [Nat.mul_comm step (n / step), ← Nat.add_one_mul]
    exact even _ (by omega)

/-- No representable count is nearer, and of two equally near ones it is the even multiple. -/
theorem nearestQuanta_nearest {n other : Nat} (fits : Representable other) :
    distance n (nearestQuanta n 1) ≤ distance n other ∧
      (other ≠ nearestQuanta n 1 → distance n (nearestQuanta n 1) = distance n other →
        power 2 (idleBits n + 1) ∣ nearestQuanta n 1) := by
  by_cases large : power 2 n.log2 ≤ other
  · exact nearestQuanta_step (fits.step_dvd large)
  by_cases zero : n = 0
  · subst zero
    exact nearestQuanta_step (Nat.one_dvd other)
  -- The leading bit alone is a multiple of the step and nearer than what is less.
  have leading := nearestQuanta_step (power_dvd_power 2 (Nat.sub_le n.log2 52) :
    power 2 (idleBits n) ∣ power 2 n.log2)
  have least : power 2 n.log2 ≤ n := Nat.log2_self_le zero
  have nearer : distance n (power 2 n.log2) < distance n other := by
    unfold distance
    omega
  have less := Nat.lt_of_le_of_lt leading.1 nearer
  exact ⟨Nat.le_of_lt less, fun _ tie => absurd tie (Nat.ne_of_lt less)⟩

theorem nearestQuanta_pos {n : Nat} (positive : 0 < n) : 0 < nearestQuanta n 1 := by
  have one : Representable 1 := representable_of_lt (by decide)
  have least := (nearestQuanta_nearest (n := n) one).1
  unfold distance at least
  omega

/-- The nearest count is the same one in a finer unit. -/
theorem nearestQuanta_mul_power (n exponent : Nat) :
    nearestQuanta (n * power 2 exponent) 1 = nearestQuanta n 1 * power 2 exponent := by
  -- What is representable is exact in both units; for all else the idle bits grow with the unit.
  by_cases fits : Representable n
  · rw [nearestQuanta_of_idle_dvd (representable_mul_power_iff.mpr fits),
      nearestQuanta_of_idle_dvd fits]
  have large : 53 ≤ n.log2 := by
    by_contra few
    refine fits (representable_of_lt ?_)
    exact Nat.lt_of_lt_of_le (lt_power_log2 n) (power_le_power (by decide) (by omega))
  have nonzero : n ≠ 0 := by
    rintro rfl
    exact absurd large (by decide)
  have idle : idleBits (n * power 2 exponent) = idleBits n + exponent := by
    rw [idleBits, log2_mul_power nonzero, idleBits]
    omega
  have positive : 0 < power 2 exponent := power_pos (by decide) exponent
  simp only [nearestQuanta, Nat.div_one, Nat.one_mul, idle, power_add,
    Nat.mul_div_mul_right _ _ positive, Nat.mul_mod_mul_right, roundsDown_scale _ _ _ positive,
    Nat.mul_assoc]

/-! ## The nearest integer -/

namespace Binary64

variable {n : Int} {negative : Bool} {magnitude : Magnitude}

theorem toInt?_of_quanta {size : Nat} (whole : magnitude.quanta = size * quantaPerUnit) :
    (finite negative magnitude).toInt? = some (if negative then -(size : Int) else size) := by
  have positive : 0 < quantaPerUnit := power_pos (by decide) 1074
  rw [toInt?, whole, Nat.mul_mod_left, Nat.mul_div_cancel _ positive, if_pos rfl]

/-- A double that is equal to an integer counts its quanta. -/
theorem quanta_of_toInt? {x : Binary64} (value : x.toInt? = some n) :
    ∃ negative magnitude, x = finite negative magnitude ∧
      magnitude.quanta = n.natAbs * quantaPerUnit ∧
      n = if negative then -(n.natAbs : Int) else n.natAbs := by
  cases x with
  | infinite | nan => cases value
  | finite negative magnitude =>
    refine ⟨negative, magnitude, rfl, ?_⟩
    simp only [toInt?, Option.ite_none_right_eq_some, Option.some.injEq] at value
    obtain ⟨whole, rfl⟩ := value
    have count := Nat.div_mul_cancel (Nat.dvd_of_mod_eq_zero whole)
    generalize magnitude.quanta / quantaPerUnit = size at count ⊢
    cases negative
    · exact ⟨count.symm, rfl⟩
    · simpa using count.symm

/-- The integer is the value of a double. -/
def Holds (n : Int) : Prop := ∃ x : Binary64, x.toInt? = some n

theorem Holds.representable (holds : Holds n) : Representable n.natAbs := by
  obtain ⟨x, value⟩ := holds
  obtain ⟨-, magnitude, -, quanta, -⟩ := quanta_of_toInt? value
  have fits : Representable (n.natAbs * quantaPerUnit) := quanta ▸ magnitude.idle_dvd
  exact representable_mul_power_iff.mp fits

/-- The integer to which an integer is rounded. -/
def nearestInt (n : Int) : Int :=
  if n < 0 then -(nearestQuanta n.natAbs 1 : Int) else nearestQuanta n.natAbs 1

theorem natAbs_nearestInt (n : Int) : (nearestInt n).natAbs = nearestQuanta n.natAbs 1 := by
  unfold nearestInt
  split <;> omega

/-- A double's integer that no other is nearer to than this one. Of two equally near, it is the one
that is even in steps of the last significant bit. -/
structure Nearest (n near : Int) : Prop where
  holds : Holds near
  least : ∀ other, Holds other → distance n near ≤ distance n other
  even : ∀ other, Holds other → other ≠ near → distance n near = distance n other →
    power 2 (idleBits n.natAbs + 1) ∣ near.natAbs

theorem exists_of_isFinite_round {numerator denominator : Nat} {x : Binary64}
    (rounded : round negative numerator denominator = x) (bounded : x.IsFinite) :
    ∃ magnitude : Magnitude, x = finite negative magnitude ∧
      magnitude.quanta = nearestQuanta numerator denominator := by
  unfold round at rounded
  split at rounded
  · exact ⟨_, rounded.symm, rfl⟩
  · subst rounded
    exact bounded.elim

theorem exists_of_ofInt {x : Binary64} (inRange : InIntegerRange n) (rounded : ofInt n = x) :
    ∃ magnitude : Magnitude, x = finite (n < 0) magnitude ∧
      magnitude.quanta = nearestQuanta n.natAbs 1 * quantaPerUnit := by
  obtain ⟨magnitude, same, quanta⟩ :=
    exists_of_isFinite_round rounded (isFinite_of_ofInt inRange rounded)
  exact ⟨magnitude, same, quanta.trans (nearestQuanta_mul_power _ 1074)⟩

theorem toInt?_ofInt (inRange : InIntegerRange n) : (ofInt n).toInt? = some (nearestInt n) := by
  generalize rounded : ofInt n = x
  obtain ⟨magnitude, rfl, quanta⟩ := exists_of_ofInt inRange rounded
  rw [toInt?_of_quanta quanta]
  simp [nearestInt]

theorem nearest_nearestInt (inRange : InIntegerRange n) : Nearest n (nearestInt n) := by
  have holds : Holds (nearestInt n) := ⟨ofInt n, toInt?_ofInt inRange⟩
  have size := natAbs_nearestInt n
  have sign : n < 0 ∧ nearestInt n = -(nearestInt n).natAbs ∨
      0 ≤ n ∧ nearestInt n = (nearestInt n).natAbs := by
    unfold nearestInt
    split <;> omega
  have zero : n = 0 → nearestInt n = 0 := by
    rintro rfl
    decide
  have nearest : ∀ other, Holds other → _ := fun other holds =>
    size ▸ nearestQuanta_nearest (n := n.natAbs) holds.representable
  simp only [distance] at nearest
  constructor
  case holds => exact holds
  case least =>
    intro other holds
    have least := (nearest other holds).1
    unfold distance
    omega
  case even =>
    intro other holds different tie
    obtain ⟨least, even⟩ := nearest other holds
    unfold distance at tie
    exact even (by omega) (by omega)

theorem nearestInt_neg_iff : nearestInt n < 0 ↔ n < 0 := by
  unfold nearestInt
  split
  case isTrue below =>
    have positive : 0 < nearestQuanta n.natAbs 1 := nearestQuanta_pos (by omega)
    omega
  case isFalse => omega

theorem ofInt_nearestInt (n : Int) : ofInt (nearestInt n) = ofInt n := by
  have same : nearestQuanta (nearestInt n).natAbs 1 = nearestQuanta n.natAbs 1 := by
    rw [natAbs_nearestInt, nearestQuanta_of_idle_dvd (idle_dvd_nearestQuanta _ 1)]
  have sign : decide (nearestInt n < 0) = decide (n < 0) := decide_eq_decide.mpr nearestInt_neg_iff
  unfold ofInt
  rw [sign]
  refine round_congr ?_
  have finer : ∀ size,
      nearestQuanta (size * quantaPerUnit) 1 = nearestQuanta size 1 * quantaPerUnit :=
    fun size => nearestQuanta_mul_power size 1074
  rw [finer, finer, same]

theorem nearestInt_eq_iff (inRange : InIntegerRange n) : nearestInt n = n ↔ Holds n := by
  constructor
  · intro same
    exact same ▸ (nearest_nearestInt inRange).holds
  · intro holds
    unfold nearestInt
    rw [nearestQuanta_of_idle_dvd holds.representable]
    split <;> omega

theorem holds_of_le (small : n.natAbs ≤ power 2 53) : Holds n := by
  have inRange := inIntegerRange_of_lt (Nat.lt_of_le_of_lt small (by decide))
  refine ⟨ofInt n, ?_⟩
  rw [toInt?_ofInt inRange, nearestInt, nearestQuanta_of_idle_dvd (representable_of_le small)]
  split <;> congr 1 <;> omega

end Binary64

end SignalGraph
