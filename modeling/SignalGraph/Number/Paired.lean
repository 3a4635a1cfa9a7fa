import SignalGraph.Number.Numeral
import SignalGraph.Number.Word

/-! Numbers as sums of two doubles, and what decimals and doubles become through them.

The second double is what the first one leaves out. Scaled by powers of ten such a sum keeps some
thirty digits. A double is scaled until its whole part has eighteen or nineteen digits, which are
the digits that are ever written of it; a decimal of as many digits is scaled the other way.
-/

set_option autoImplicit false

namespace SignalGraph

namespace Binary64

/-- The value without the last 26 bits of its word. -/
def front (x : Binary64) : Binary64 :=
  let word := x.toBits
  ofBits (word - word % power 2 26)

end Binary64

/-- The sum of two doubles. -/
structure Paired where
  large : Binary64
  small : Binary64

namespace Paired

/-- The product with a number, without what is too small to matter. -/
def scale (x factor : Paired) : Paired :=
  let front := x.large.front
  let rest := x.large - front
  let factorFront := factor.large.front
  let factorRest := factor.large - factorFront
  let high := front * factorFront
  let middle := front * factorRest + rest * factorFront
  let sum := high + middle
  let lost := high - sum + middle + rest * factorRest
  let lost := x.large * factor.small + x.small * factor.large + lost
  let large := sum + lost
  ⟨large, sum - large + lost⟩

def repeated (count : Nat) (factor : Paired) (x : Paired) : Paired :=
  count.repeat (scale · factor) x

def ten : Paired := ⟨10.0, .zero false⟩
def tenTens : Paired := ⟨1e10, .zero false⟩
def hundredTens : Paired := ⟨1e100, -1.5902891109759918046e+83⟩
def tenth : Paired := ⟨0.1, -5.5511151231257827021e-18⟩
def tenTenths : Paired := ⟨1e-10, -3.6432197315497741579e-27⟩
def hundredTenths : Paired := ⟨1e-100, -1.99918998026028836196e-117⟩

/-- The product with a power of ten. -/
def timesTen (exponent : Int) (x : Paired) : Paired :=
  let size := exponent.natAbs
  if 0 ≤ exponent then
    repeated (size % 10) ten (repeated (size % 100 / 10) tenTens
      (repeated (size / 100) hundredTens x))
  else
    repeated (size % 10) tenth (repeated (size % 100 / 10) tenTenths
      (repeated (size / 100) hundredTenths x))

/-- A whole number of a word, without loss. -/
def ofNat (n : Nat) : Paired :=
  let large := Binary64.ofNat n
  match large.toInt? with
  | some whole => ⟨large, if whole < (power 2 64 : Int) then .ofInt (n - whole) else .zero false⟩
  | none => ⟨large, .zero false⟩

/-- Scale as long as a test asks for it, and count the steps. -/
def scaleWhile (test : Binary64 → Bool) (factor : Paired) : Nat → Nat × Paired → Nat × Paired
  | 0, found => found
  | fuel + 1, (count, x) =>
    if test x.large then scaleWhile test factor fuel (count + 1, x.scale factor) else (count, x)

/-- The whole number that begins with the leading digits of a positive double, and the power of
ten it has to be scaled by. -/
def leading (x : Binary64) : Nat × Int :=
  let down (bound : Binary64) (factor : Paired) (x : Paired) : Nat × Paired :=
    scaleWhile bound.less factor 20 (0, x)
  let up (bound : Binary64) (factor : Paired) (x : Paired) : Nat × Paired :=
    scaleWhile (·.less bound) factor 20 (0, x)
  let start : Paired := ⟨x, .zero false⟩
  let (exponent, found) : Int × Paired :=
    if (9.223372036854774784e+18 : Binary64).less x then
      let (hundreds, x) := down 9.223372036854774784e+118 hundredTenths start
      let (tens, x) := down 9.223372036854774784e+28 tenTenths x
      let (ones, x) := down 9.223372036854774784e+18 tenth x
      ((hundreds * 100 + tens * 10 + ones : Nat), x)
    else
      let (hundreds, x) := up 9.223372036854774784e-83 hundredTens start
      let (tens, x) := up 9.223372036854774784e+07 tenTens x
      let (ones, x) := up 9.22337203685477478e+17 ten x
      (-((hundreds * 100 + tens * 10 + ones : Nat) : Int), x)
  ((found.large.wholePart + found.small.wholePart).toNat, exponent)

end Paired

/-- The digits of a number, and how many of them stand before the point. -/
structure Digits where
  digits : List Char
  point : Int

namespace Digits

/-- The first digits; a half goes up. -/
def keep (number : Digits) (count : Nat) : Digits :=
  let kept := number.digits.take count
  match number.digits[count]? with
  | some next =>
    if '5' ≤ next then
      let raised := Nat.toDigits 10 (digitsValue 0 kept + 1)
      ⟨raised, number.point + raised.length - kept.length⟩
    else { number with digits := kept }
  | none => { number with digits := kept }

def withoutZeros (number : Digits) : Digits :=
  match (number.digits.reverse.dropWhile (· = '0')).reverse with
  | [] => { number with digits := ['0'] }
  | digits => { number with digits }

/-- How far the digits of a number go: as many in all, or as many behind the point. -/
inductive Extent where
  | inAll (count : Nat)
  | behindPoint (count : Nat)

/-- The digits of a positive double, as far as wanted, and never more than `most`. -/
def ofPositive (x : Binary64) (extent : Extent) (most : Nat) : Digits :=
  let (whole, exponent) := Paired.leading x
  let digits := Nat.toDigits 10 whole
  let number : Digits := ⟨digits, digits.length + exponent⟩
  let (number, count) : Digits × Int := match extent with
    | .inAll count => (number, count)
    | .behindPoint count =>
      let wanted := number.point + count
      if wanted = 0 ∧ '5' ≤ (number.digits.head?.getD '0') then
        (⟨'0' :: number.digits, number.point + 1⟩, 1)
      else (number, wanted)
  if 0 < count ∧ (count < number.digits.length ∨ most < number.digits.length) then
    (number.keep (min count.toNat most)).withoutZeros
  else number.withoutZeros

end Digits

/-- The last significand to which a further digit is added. -/
def significandBound : Nat := (power 2 64 - 10) / 10

/-- The leading digits that count of a decimal, and the power of ten behind them. -/
def Decimal.leading (decimal : Decimal) : Nat × Int :=
  let digits := Nat.toDigits 10 decimal.digits
  let (kept, used) := digits.foldl (fun (kept, used) digit =>
    if kept < significandBound then (kept * 10 + (digit.toNat - '0'.toNat), used + 1)
    else (kept, used)) (0, 0)
  (kept, decimal.exponent + (digits.length - used : Nat))

/-- Move zeros from the exponent into the digits as far as a word can hold them, or back. -/
def Decimal.balance : Nat → Nat × Int → Nat × Int
  | 0, found => found
  | fuel + 1, (digits, exponent) =>
    if 0 < exponent ∧ digits < (power 2 64 - 2048) / 10 then balance fuel (digits * 10, exponent - 1)
    else if exponent < 0 ∧ digits % 10 = 0 then balance fuel (digits / 10, exponent + 1)
    else (digits, exponent)

/-- The double that a decimal is read as: the nearest one, or in rare cases its neighbour. -/
def Decimal.toReal (negative : Bool) (decimal : Decimal) : Binary64 :=
  if decimal.digits = 0 ∨ decimal.leadingPlace < -400 then .zero negative
  else if 400 < decimal.leadingPlace then .infinite negative
  else
    let (digits, exponent) := Decimal.balance 40 decimal.leading
    let sum := Paired.timesTen exponent (.ofNat digits)
    let found := match sum.large + sum.small with
      | .nan => .infinite false
      | found => found
    if negative then -found else found

end SignalGraph
