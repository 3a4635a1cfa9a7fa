import SignalGraph.Number.Power

/-! Double-precision numbers as exact values.

A finite magnitude is a count of quanta, one quantum being `2 ^ -1074`, the least positive
double. Arithmetic is exact on quanta and rounds once, to the nearest magnitude with 53
significant bits; of two equally near, to the one whose significand is even.
-/

set_option autoImplicit false

namespace SignalGraph

/-- Quanta in the number one. -/
def quantaPerUnit : Nat := power 2 1074

/-- The first power of two that is too large for a finite magnitude. -/
def quantaBound : Nat := power 2 2098

/-- How many trailing bits a magnitude of this size cannot use. -/
def idleBits (quanta : Nat) : Nat := quanta.log2 - 52

/-- A finite magnitude: at most 53 significant bits, below the bound. -/
@[ext]
structure Magnitude where
  quanta : Nat
  lt_bound : quanta < quantaBound
  idle_dvd : power 2 (idleBits quanta) ∣ quanta
  deriving DecidableEq

/-- The quanta nearest to `numerator / denominator` among counts with 53 significant bits. -/
def nearestQuanta (numerator denominator : Nat) : Nat :=
  let idle := idleBits (numerator / denominator)
  let step := denominator * power 2 idle
  let low := numerator / step
  let rest := numerator % step
  let significand :=
    if 2 * rest < step ∨ (2 * rest = step ∧ low % 2 = 0) then low else low + 1
  significand * power 2 idle

theorem lt_power_of_idleBits (quanta : Nat) : quanta < power 2 (53 + idleBits quanta) :=
  Nat.lt_of_lt_of_le (lt_power_log2 quanta)
    (power_le_power (by decide) (by unfold idleBits; omega))

/-- A significand of at most 53 bits, or the next power of two, leaves its zeros idle. -/
theorem idle_dvd_mul {significand idle : Nat} (h : significand ≤ power 2 53) :
    power 2 (idleBits (significand * power 2 idle)) ∣ significand * power 2 idle := by
  by_cases zero : significand = 0
  · simp [zero]
  by_cases full : significand = power 2 53
  · subst full
    rw [← power_add]
    refine power_dvd_power 2 ?_
    unfold idleBits
    rw [log2_power]
    omega
  · have small : significand < power 2 53 := Nat.lt_of_le_of_ne h full
    have product : significand * power 2 idle < power 2 (53 + idle) := by
      rw [power_add]; exact Nat.mul_lt_mul_of_pos_right small (power_pos (by decide) idle)
    have positive : significand * power 2 idle ≠ 0 :=
      Nat.mul_ne_zero zero (Nat.ne_of_gt (power_pos (by decide) idle))
    have bits := (log2_lt_iff positive (53 + idle)).mpr product
    refine Nat.dvd_trans (power_dvd_power 2 ?_) (Nat.dvd_mul_left _ _)
    unfold idleBits
    omega

theorem idle_dvd_nearestQuanta (numerator denominator : Nat) :
    power 2 (idleBits (nearestQuanta numerator denominator)) ∣
      nearestQuanta numerator denominator := by
  unfold nearestQuanta
  refine idle_dvd_mul ?_
  have low : numerator / (denominator * power 2 (idleBits (numerator / denominator))) <
      power 2 53 := by
    rw [← Nat.div_div_eq_div_mul, Nat.div_lt_iff_lt_mul (power_pos (by decide) _), ← power_add]
    exact lt_power_of_idleBits _
  split <;> omega

inductive Binary64 where
  | finite (negative : Bool) (magnitude : Magnitude)
  | infinite (negative : Bool)
  | nan
  deriving DecidableEq

namespace Binary64

def IsFinite : Binary64 → Prop
  | finite _ _ => True
  | infinite _ => False
  | nan => False

instance (x : Binary64) : Decidable x.IsFinite :=
  match x with
  | finite _ _ => .isTrue trivial
  | infinite _ => .isFalse id
  | nan => .isFalse id

/-- The double nearest to a signed quotient of quanta; what lies past the bound is infinite. -/
def round (negative : Bool) (numerator denominator : Nat) : Binary64 :=
  if h : nearestQuanta numerator denominator < quantaBound then
    finite negative ⟨nearestQuanta numerator denominator, h, idle_dvd_nearestQuanta _ _⟩
  else infinite negative

def zero (negative : Bool) : Binary64 := round negative 0 1

/-- The double nearest to an integer. -/
def ofInt (n : Int) : Binary64 := round (n < 0) (n.natAbs * quantaPerUnit) 1

def ofNat (n : Nat) : Binary64 := ofInt n

/-- The sign and size of a finite value, in quanta. -/
def signedQuanta (negative : Bool) (magnitude : Magnitude) : Int :=
  if negative then -(magnitude.quanta : Int) else magnitude.quanta

def negate : Binary64 → Binary64
  | finite negative magnitude => finite (!negative) magnitude
  | infinite negative => infinite (!negative)
  | nan => nan

/-- A sum that cancels exactly is positive zero, unless both terms are negative zeros. -/
def add : Binary64 → Binary64 → Binary64
  | finite s a, finite t b =>
    let total := signedQuanta s a + signedQuanta t b
    if total = 0 then zero (s && t) else round (total < 0) total.natAbs 1
  | infinite s, infinite t => if s = t then infinite s else nan
  | nan, _ | _, nan => nan
  | infinite s, finite _ _ => infinite s
  | finite _ _, infinite t => infinite t

def mul : Binary64 → Binary64 → Binary64
  | finite s a, finite t b => round (s != t) (a.quanta * b.quanta) quantaPerUnit
  | nan, _ | _, nan => nan
  | infinite s, infinite t => infinite (s != t)
  | infinite s, finite t b => if b.quanta = 0 then nan else infinite (s != t)
  | finite s a, infinite t => if a.quanta = 0 then nan else infinite (s != t)

instance : Neg Binary64 := ⟨negate⟩
instance : Add Binary64 := ⟨add⟩
instance : Sub Binary64 := ⟨fun x y => add x (negate y)⟩
instance : Mul Binary64 := ⟨mul⟩

/-- Numeric equality: the two zeros are equal, and nothing equals a NaN. -/
instance : BEq Binary64 where
  beq
    | finite s a, finite t b => signedQuanta s a == signedQuanta t b
    | infinite s, infinite t => s == t
    | _, _ => false

/-- Numeric order; no comparison holds of a NaN. -/
def less : Binary64 → Binary64 → Bool
  | finite s a, finite t b => signedQuanta s a < signedQuanta t b
  | infinite s, finite _ _ => s
  | finite _ _, infinite t => !t
  | infinite s, infinite t => s && !t
  | nan, _ | _, nan => false

/-- The integer a value is equal to, if there is one. -/
def toInt? : Binary64 → Option Int
  | finite negative magnitude =>
    if magnitude.quanta % quantaPerUnit = 0 then
      let whole : Int := (magnitude.quanta / quantaPerUnit : Nat)
      some (if negative then -whole else whole)
    else none
  | infinite _ | nan => none

theorem finite_beq_self (negative : Bool) (magnitude : Magnitude) :
    (finite negative magnitude == finite negative magnitude) = true := by
  simp [BEq.beq]

end Binary64

end SignalGraph
