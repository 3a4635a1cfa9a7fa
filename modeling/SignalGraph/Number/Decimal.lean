import SignalGraph.Number.Binary64

/-! Decimals and doubles: the double nearest to a decimal, and the shortest decimal that
reads back as a double.

A decimal is `digits * 10 ^ exponent`. The shortest decimal is sought by length: a grid of
one significant digit, of two, and so on to seventeen. On each grid only the two points
around the value need a try, and of two that read back the nearer one is taken.
-/

set_option autoImplicit false

namespace SignalGraph

/-- The number `digits * 10 ^ exponent`. -/
structure Decimal where
  digits : Nat
  exponent : Int
  deriving DecidableEq

/-- The number of decimal digits of a count; zero has one. -/
def digitCount (n : Nat) : Nat := (Nat.toDigits 10 n).length

namespace Decimal

/-- The decimal as a quotient of quanta. -/
def quotient (decimal : Decimal) : Nat × Nat :=
  match decimal.exponent with
  | .ofNat e => (decimal.digits * power 10 e * quantaPerUnit, 1)
  | .negSucc e => (decimal.digits * quantaPerUnit, power 10 (e + 1))

/-- The place of the leading digit: a nonzero decimal lies in `[10 ^ (p - 1), 10 ^ p)`. -/
def leadingPlace (decimal : Decimal) : Int := digitCount decimal.digits + decimal.exponent

/-- The double nearest to a decimal. A leading digit out of every double's reach settles the
answer before any power of ten is formed. -/
def toBinary64 (negative : Bool) (decimal : Decimal) : Binary64 :=
  if decimal.digits = 0 ∨ decimal.leadingPlace < -323 then .zero negative
  else if 309 < decimal.leadingPlace then .infinite negative
  else .round negative decimal.quotient.1 decimal.quotient.2

/-- The same number with no trailing zero among its digits. -/
def normalize (fuel : Nat) (decimal : Decimal) : Decimal :=
  match fuel with
  | 0 => decimal
  | fuel + 1 =>
    if decimal.digits ≠ 0 ∧ decimal.digits % 10 = 0 then
      normalize fuel ⟨decimal.digits / 10, decimal.exponent + 1⟩
    else decimal

def trimmed (decimal : Decimal) : Decimal := decimal.normalize (digitCount decimal.digits)

end Decimal

namespace Magnitude

/-- The decimal reads back as this magnitude. -/
def ReadsBack (magnitude : Magnitude) (decimal : Decimal) : Prop :=
  decimal.toBinary64 false = .finite false magnitude

instance (magnitude : Magnitude) (decimal : Decimal) : Decidable (magnitude.ReadsBack decimal) :=
  inferInstanceAs (Decidable (_ = _))

/-- The place of the leading digit of a nonzero magnitude. -/
def leadingPlace (magnitude : Magnitude) : Int :=
  (digitCount (magnitude.quanta * power 10 324 / quantaPerUnit) : Int) - 324

/-- The magnitude in steps of `10 ^ exponent`, as a quotient. -/
def steps (magnitude : Magnitude) : Int → Nat × Nat
  | .ofNat e => (magnitude.quanta, quantaPerUnit * power 10 e)
  | .negSucc e => (magnitude.quanta * power 10 (e + 1), quantaPerUnit)

/-- The multiple of `10 ^ exponent` that reads back: the nearer of the two around the value,
and the one with an even last digit when both are equally near. -/
def onGrid? (magnitude : Magnitude) (exponent : Int) : Option Decimal :=
  let (numerator, denominator) := magnitude.steps exponent
  let low : Decimal := ⟨numerator / denominator, exponent⟩
  let high : Decimal := ⟨numerator / denominator + 1, exponent⟩
  let rest := numerator % denominator
  let lowFirst := 2 * rest < denominator ∨ (2 * rest = denominator ∧ low.digits % 2 = 0)
  let (nearer, other) := if lowFirst then (low, high) else (high, low)
  if magnitude.ReadsBack nearer then some nearer
  else if magnitude.ReadsBack other then some other
  else none

/-- The magnitude itself, as a decimal with all its digits. -/
def exactDecimal (magnitude : Magnitude) : Decimal :=
  ⟨magnitude.quanta * power 5 1074, -1074⟩

/-- The shortest decimal that reads back. Seventeen digits always suffice, so the exact
decimal is never needed; it stands here so that the answer reads back by construction. -/
def shortestDecimal (magnitude : Magnitude) : Decimal :=
  if magnitude.quanta = 0 then ⟨0, 0⟩
  else
    let place := magnitude.leadingPlace
    let found := (List.range 17).findSome? fun n => magnitude.onGrid? (place - (n + 1 : Nat))
    (found.getD magnitude.exactDecimal).trimmed

end Magnitude

instance : OfScientific Binary64 where
  ofScientific digits negativeExponent places :=
    Decimal.toBinary64 false ⟨digits, if negativeExponent then -places else places⟩

end SignalGraph
