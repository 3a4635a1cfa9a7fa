import SignalGraph.Number.Decimal

/-! The written form of a double: the fewest digits that read back.

From `1e-5` up to but not including `1e16` the point is written in place, with at least one
digit after it; other magnitudes have one digit before the point and an exponent.
-/

set_option autoImplicit false

namespace SignalGraph

namespace Decimal

/-- The digits of a positional form, with the point after `place` of them. -/
def positional (digits : List Char) (place : Int) : List Char :=
  if place ≤ 0 then '0' :: '.' :: (List.replicate (-place).toNat '0' ++ digits)
  else
    let whole := place.toNat
    if digits.length ≤ whole then
      digits ++ List.replicate (whole - digits.length) '0' ++ ['.', '0']
    else digits.take whole ++ '.' :: digits.drop whole

def exponentText (exponent : Int) : List Char :=
  (if exponent < 0 then ['e', '-'] else ['e', '+']) ++ Nat.toDigits 10 exponent.natAbs

/-- One digit, the point if more follow, and the exponent. -/
def scientific (digits : List Char) (place : Int) : List Char :=
  match digits with
  | [] => exponentText (place - 1)
  | [digit] => digit :: exponentText (place - 1)
  | digit :: rest => digit :: '.' :: (rest ++ exponentText (place - 1))

def written (decimal : Decimal) : List Char :=
  let digits := Nat.toDigits 10 decimal.digits
  let place := decimal.leadingPlace
  if decimal.digits = 0 then ['0', '.', '0']
  else if -5 < place ∧ place ≤ 16 then positional digits place
  else scientific digits place

end Decimal

namespace Binary64

/-- The written form of every double, the three that are no numbers included. -/
def toText : Binary64 → List Char
  | finite negative magnitude =>
    (if negative then ['-'] else []) ++ magnitude.shortestDecimal.written
  | infinite negative => if negative then ['-', 'i', 'n', 'f'] else ['i', 'n', 'f']
  | nan => ['N', 'a', 'N']

instance : ToString Binary64 := ⟨fun x => String.ofList x.toText⟩

example : (0.00001 : Binary64).toText = "0.00001".toList := by decide +kernel
example : (0.00000125 : Binary64).toText = "1.25e-6".toList := by decide +kernel
example : (1e15 : Binary64).toText = "1000000000000000.0".toList := by decide +kernel
example : (1e16 : Binary64).toText = "1e+16".toList := by decide +kernel
example : (5e-324 : Binary64).toText = "5e-324".toList := by decide +kernel
example : ((0.1 : Binary64) + 0.2).toText = "0.30000000000000004".toList := by decide +kernel

end Binary64

end SignalGraph
