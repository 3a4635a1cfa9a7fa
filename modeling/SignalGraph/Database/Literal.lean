import SignalGraph.Database.Number
import SignalGraph.Database.Statement
import SignalGraph.Database.Token

/-! Numbers and bytes as statements write them. -/

set_option autoImplicit false

namespace SignalGraph.Database.Literal

def hexValue (digits : List Char) : Nat :=
  digits.foldl (fun value digit =>
    let digit := digit.toLower
    value * 16 + (if digit.isDigit then digit.toNat - '0'.toNat else digit.toNat - 'a'.toNat + 10)) 0

def bytes : List Char → List UInt8
  | a :: b :: rest => UInt8.ofNat (hexValue [a, b]) :: bytes rest
  | _ => []

/-- The digits of a numeral in base sixteen. -/
def hexDigits? (text : List Char) : Option (List Char) :=
  match text with
  | '0' :: x :: digits => if x = 'x' ∨ x = 'X' then some digits else none
  | _ => none

/-- A whole number; one in base sixteen fills a word. -/
def integer (written : String) : Expression :=
  match hexDigits? written.toList with
  | some digits =>
    let value := FixedWidth.signed 64 (hexValue digits % power 2 64)
    if 16 < (digits.dropWhile (· = '0')).length ∨ value = leastWord then .numeral written
    else .literal (.integer value)
  | none =>
    match (NumericFront.ofText written).toDatum with
    | .integer n => .literal (.integer n)
    | _ => .numeral written

/-- A number without lines between its digits. -/
def number (text : List Char) : Expression :=
  let written := String.ofList text
  let isWhole := (hexDigits? text).isSome || text.all Char.isDigit
  if isWhole then integer written else .literal (.real (NumericFront.ofText written).toReal)

/-- The value with a minus sign in front, which may be another number. -/
def negative : Expression → Expression
  | .literal (.real x) => .literal (.real (-x))
  | .literal (.integer n) =>
    if n = leastWord then .unary .negate (.literal (.integer n)) else .literal (.integer (-n))
  | .numeral written =>
    if (hexDigits? written.toList).isSome then .numeral ("-" ++ written)
    else
      let front := NumericFront.ofText written
      if front.toInt = -leastWord then .literal (.integer leastWord)
      else .literal (.real (-front.toReal))
  | operand => .unary .negate operand

/-- The value of a numeral at the edge of what a word can hold. -/
def numeralValue (written : String) : Except StatementFault Datum :=
  match hexDigits? written.toList with
  | some digits =>
    if (digits.dropWhile (· = '0')).length ≤ 16 then .ok (.integer leastWord)
    else .error (.domain ("hex literal too big: " ++ written))
  | none =>
    if written.toList.head? = some '-' then .error (.domain ("hex literal too big: " ++ written))
    else .ok (.real (NumericFront.ofText written).toReal)

end SignalGraph.Database.Literal
