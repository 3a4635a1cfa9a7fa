/-! Powers of natural numbers. -/

set_option autoImplicit false

namespace SignalGraph

def power (base exponent : Nat) : Nat := Nat.pow base exponent

theorem power_zero (base : Nat) : power base 0 = 1 := rfl

theorem power_succ (base exponent : Nat) : power base (exponent + 1) = power base exponent * base :=
  rfl

theorem power_add (base first second : Nat) :
    power base (first + second) = power base first * power base second :=
  Nat.pow_add base first second

theorem power_pos {base : Nat} (positive : 0 < base) (exponent : Nat) : 0 < power base exponent :=
  Nat.pow_pos positive

theorem power_le_power {base first second : Nat} (positive : 0 < base) (h : first ≤ second) :
    power base first ≤ power base second :=
  Nat.pow_le_pow_right positive h

theorem power_dvd_power (base : Nat) {first second : Nat} (h : first ≤ second) :
    power base first ∣ power base second :=
  Nat.pow_dvd_pow base h

theorem log2_power (exponent : Nat) : (power 2 exponent).log2 = exponent := Nat.log2_two_pow

theorem lt_power_log2 (n : Nat) : n < power 2 (n.log2 + 1) := Nat.lt_log2_self

theorem log2_lt_iff {n : Nat} (nonzero : n ≠ 0) (exponent : Nat) :
    n.log2 < exponent ↔ n < power 2 exponent :=
  Nat.log2_lt nonzero

end SignalGraph
