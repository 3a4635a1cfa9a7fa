import SignalGraph.Number.Decimal

/-! Numbers that people and settings files write: counts, and doubles in decimal notation.

A count is decimal digits after an optional plus sign, below `2 ^ 64`. A double is an optional
sign and either one of the words inf, infinity and nan in any case, or digits with an optional
point on either side of which some may be missing but not all, and an optional exponent.
-/

set_option autoImplicit false

namespace SignalGraph

/-- The value of decimal digits, most significant first, after those already read. -/
def digitsValue (read : Nat) (digits : List Char) : Nat :=
  digits.foldl (fun value digit => value * 10 + (digit.toNat - '0'.toNat)) read

def splitDigits (text : List Char) : List Char × List Char :=
  (text.takeWhile Char.isDigit, text.dropWhile Char.isDigit)

namespace Numeral

/-- A nonempty run of digits that fills the whole text. -/
def digits? (text : List Char) : Option Nat :=
  if text ≠ [] ∧ text.all Char.isDigit then some (digitsValue 0 text) else none

/-- A count below `2 ^ 64`. -/
def count? (text : String) : Option Nat :=
  let digits := match text.toList with
    | '+' :: rest => rest
    | other => other
  (digits? digits).filter (· < power 2 64)

/-- The sign in front, if any, and what follows it. -/
def splitSign : List Char → Bool × List Char
  | '-' :: rest => (true, rest)
  | '+' :: rest => (false, rest)
  | text => (false, text)

/-- The exponent that ends a decimal; no text means exponent zero. -/
def exponent? : List Char → Option Int
  | [] => some 0
  | mark :: rest =>
    if mark = 'e' ∨ mark = 'E' then
      let (negative, digits) := splitSign rest
      (digits? digits).map fun value => if negative then -(value : Int) else value
    else none

/-- An unsigned decimal with an optional point and an optional exponent. -/
def decimal? (text : List Char) : Option Decimal :=
  let (whole, rest) := splitDigits text
  let (places, rest) := match rest with
    | '.' :: rest => splitDigits rest
    | rest => ([], rest)
  if whole = [] ∧ places = [] then none
  else (exponent? rest).map fun exponent =>
    ⟨digitsValue 0 (whole ++ places), exponent - places.length⟩

def double? (text : String) : Option Binary64 :=
  let (negative, body) := splitSign text.toList
  let word := String.ofList (body.map Char.toLower)
  if word = "inf" ∨ word = "infinity" then some (.infinite negative)
  else if word = "nan" then some .nan
  else (decimal? body).map (Decimal.toBinary64 negative)

end Numeral

end SignalGraph
