import SignalGraph.Number.Decimal

/-! Doubles as words of 64 bits, and the operations on them that round: quotients, cutting off
what follows the point, and decimals of a given number of digits.
-/

set_option autoImplicit false

namespace SignalGraph

/-- Integers of a word with a sign. -/
def fitsWord (n : Int) : Bool := -(power 2 63 : Int) ≤ n && n < (power 2 63 : Int)

def greatestWord : Int := (power 2 63 : Int) - 1

def leastWord : Int := -(power 2 63 : Int)

namespace Binary64

/-- The double of a word: a sign, eleven bits for the size and 52 for the significand. -/
def ofBits (word : Nat) : Binary64 :=
  let negative := power 2 63 ≤ word
  let size := word / power 2 52 % 2048
  let fraction := word % power 2 52
  if size = 2047 then if fraction = 0 then infinite negative else nan
  else if size = 0 then round negative fraction 1
  else round negative ((power 2 52 + fraction) * power 2 (size - 1)) 1

def toBits : Binary64 → Nat
  | finite negative magnitude =>
    let sign := if negative then power 2 63 else 0
    let quanta := magnitude.quanta
    if quanta < power 2 52 then sign + quanta
    else
      let idle := quanta.log2 - 52
      sign + (idle + 1) * power 2 52 + (quanta / power 2 idle - power 2 52)
  | infinite negative => (if negative then power 2 63 else 0) + 2047 * power 2 52
  | nan => 2047 * power 2 52 + power 2 51

/-- The quotient of a value and one that is not zero. -/
def divide : Binary64 → Binary64 → Binary64
  | finite s a, finite t b =>
    if b.quanta = 0 then nan else round (s != t) (a.quanta * quantaPerUnit) b.quanta
  | infinite s, finite t _ => infinite (s != t)
  | finite s _, infinite t => zero (s != t)
  | _, _ => nan

/-- What stands before the point of a finite value. -/
def wholePart : Binary64 → Int
  | finite negative magnitude =>
    let whole : Int := (magnitude.quanta / quantaPerUnit : Nat)
    if negative then -whole else whole
  | _ => 0

/-- The whole part, within the range of a word. -/
def truncate : Binary64 → Int
  | finite negative magnitude =>
    let whole : Int := (magnitude.quanta / quantaPerUnit : Nat)
    if negative then max (-whole) leastWord else min whole greatestWord
  | infinite negative => if negative then leastWord else greatestWord
  | nan => 0

/-- The integer a value is equal to, if a word can hold it and its neighbours. -/
def toWord? (x : Binary64) : Option Int :=
  x.toInt?.filter fun n => leastWord < n && n < greatestWord

def isNegative : Binary64 → Bool
  | finite negative magnitude => negative && magnitude.quanta ≠ 0
  | infinite negative => negative
  | nan => false

def absolute : Binary64 → Binary64
  | finite _ magnitude => finite false magnitude
  | infinite _ => infinite false
  | nan => nan

end Binary64

/-- The decimal of at most so many digits nearest to a magnitude, the larger of two. -/
def Magnitude.roundedDecimal (magnitude : Magnitude) (digits : Nat) : Decimal :=
  if magnitude.quanta = 0 then ⟨0, 0⟩
  else
    let exponent := magnitude.leadingPlace - digits
    let (numerator, denominator) := magnitude.steps exponent
    (⟨(2 * numerator + denominator) / (2 * denominator), exponent⟩ : Decimal).trimmed

end SignalGraph
