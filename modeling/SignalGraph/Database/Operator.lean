import SignalGraph.Database.Expression

/-! What operators make of values.

Integers that leave a word become reals. Null on either side makes null, except where a test asks
for it. Before two values are compared a leaning of one side can change both.
-/

set_option autoImplicit false

namespace SignalGraph.Database

namespace Datum

/-- An integer, or the real nearest to it if no word can hold it. -/
def ofWide (n : Int) : Datum := if fitsWord n then .integer n else .real (.ofInt n)

/-- The integer with its bits in a word. -/
def wrapWord (n : Int) : Int := n.bmod (power 2 64)

/-- The quotient of integers, cut off; there is none by zero. -/
def quotient (a b : Int) : Datum := if b = 0 then .null else ofWide (a.tdiv b)

def remainder (a b : Int) : Option Int :=
  if b = 0 then none else some (a.tmod b)

def arithmetic (operator : Binary) (left right : Datum) : Datum :=
  match left.toNumber, right.toNumber with
  | .null, _ | _, .null => .null
  | .integer a, .integer b =>
    match operator with
    | .add => ofWide (a + b)
    | .subtract => ofWide (a - b)
    | .multiply => ofWide (a * b)
    | .divide => quotient a b
    | _ => ((remainder a b).map Datum.integer).getD .null
  | a, b =>
    match operator with
    | .add => ofReal (a.toReal + b.toReal)
    | .subtract => ofReal (a.toReal + -b.toReal)
    | .multiply => ofReal (a.toReal * b.toReal)
    | .divide =>
      if b.toReal == .zero false then .null else ofReal (a.toReal.divide b.toReal)
    | _ =>
      ((remainder left.toInt right.toInt).map fun n => Datum.real (.ofInt n)).getD .null

/-- What is left of nothing without a value. -/
def negate (value : Datum) : Datum := arithmetic .subtract (.integer 0) value

/-- The bits of two words combined. -/
def bitwise (combine : Nat → Nat → Nat) (a b : Int) : Int :=
  let bits (n : Int) : Nat := (n % (power 2 64 : Int)).toNat
  wrapWord (combine (bits a) (bits b))

/-- Shift to the left, or for a negative amount to the right, where the sign is kept. -/
def shift (n amount : Int) : Int :=
  if 0 ≤ amount then
    if 64 ≤ amount then 0 else wrapWord (n * power 2 amount.toNat)
  else if amount ≤ -64 then (if n < 0 then -1 else 0)
  else n.fdiv (power 2 (-amount).toNat)

def onIntegers (operator : Binary) (left right : Datum) : Datum :=
  if left.isNull || right.isNull then .null
  else
    let a := left.toInt
    let b := right.toInt
    match operator with
    | .bitAnd => .integer (bitwise (· &&& ·) a b)
    | .bitOr => .integer (bitwise (· ||| ·) a b)
    | .shiftLeft => .integer (shift a b)
    | _ => .integer (shift a (-b))

def concatenate (left right : Datum) : Datum :=
  match left.text?, right.text? with
  | some a, some b => .text (Bytes.settle (a.toList ++ b.toList))
  | _, _ => .null

/-- The leaning that a comparison goes by: a numeric one wins, and a lone one counts. -/
def comparedAs (left right : Option Leaning) : Leaning :=
  match left, right with
  | some a, some b => if a.isNumeric || b.isNumeric then .numeric else .blob
  | some a, none => a
  | none, some b => b
  | none, none => .blob

/-- The values as a leaning has them compared. -/
def prepare (leaning : Leaning) (left right : Datum) : Datum × Datum :=
  match leaning with
  | .blob => (left, right)
  | .text =>
    match left, right with
    | .text _, _ | _, .text _ => (left.leanTo .text, right.leanTo .text)
    | _, _ => (left, right)
  | _ => (left.ofNumericText, right.ofNumericText)

/-- The order of two values, unless one is null. -/
def compareAs? (leaning : Leaning) (collation : Collation) (left right : Datum) :
    Option Ordering :=
  if left.isNull || right.isNull then none
  else
    let (left, right) := prepare leaning left right
    some (order collation left right)

def ofTruth : Option Bool → Datum
  | some value => ofBool value
  | none => .null

/-- The test that an operator makes of an order. -/
def passes (operator : Binary) (found : Ordering) : Bool :=
  match operator with
  | .equal | .is => found = .eq
  | .unequal | .isNot => found ≠ .eq
  | .less => found = .lt
  | .atMost => found ≠ .gt
  | .more => found = .gt
  | .atLeast => found ≠ .lt
  | _ => false

/-- A value that a comparison is about, with how it leans and how it is compared. -/
structure Side where
  value : Datum
  expression : Expression

namespace Side

def leaning (left right : Side) : Leaning :=
  comparedAs left.expression.leaning? right.expression.leaning?

def collation (left right : Side) : Collation :=
  Expression.collationOf left.expression right.expression

def order? (left right : Side) : Option Ordering :=
  compareAs? (leaning left right) (collation left right) left.value right.value

/-- Whether two sides are the same; null is the same as null if it counts. -/
def same? (nullCounts : Bool) (left right : Side) : Option Bool :=
  match order? left right with
  | some found => some (found = .eq)
  | none => if nullCounts then some (left.value.isNull && right.value.isNull) else none

/-- Whether values that stand together are the same as others: one difference settles it. -/
def allSame? (nullCounts : Bool) (lefts rights : List Side) : Option Bool :=
  let found := List.zipWith (same? nullCounts) lefts rights
  if found.any (· = some false) then some false
  else if found.any Option.isNone then none
  else some true

/-- The test of an order by the first values that differ. -/
def ordered? (operator : Binary) : List Side → List Side → Option Bool
  | [left], [right] => (order? left right).map (passes operator)
  | left :: lefts, right :: rights =>
    match order? left right with
    | some .eq => ordered? operator lefts rights
    | some found => some (passes operator found)
    | none => none
  | _, _ => none

/-- A comparison of values that stand together. -/
def compared (operator : Binary) (lefts rights : List Side) : Datum :=
  match operator with
  | .equal => ofTruth (allSame? false lefts rights)
  | .unequal => ofTruth ((allSame? false lefts rights).map not)
  | .is => ofTruth (allSame? true lefts rights)
  | .isNot => ofTruth ((allSame? true lefts rights).map not)
  | _ => ofTruth (ordered? operator lefts rights)

/-- Whether values are among the rows of others; a row that may be the same leaves it open. -/
def among (lefts : List Side) (rows : List (List Side)) : Datum :=
  let found := rows.map fun row => allSame? false lefts row
  if found.any (· = some true) then .ofBool true
  else if found.any Option.isNone then .null
  else .ofBool false

end Side

/-- The value of an operator on two values that both count. -/
def combined (operator : Binary) (left right : Datum) : Datum :=
  match operator with
  | .concatenate => concatenate left right
  | .bitAnd | .bitOr | .shiftLeft | .shiftRight => onIntegers operator left right
  | _ => arithmetic operator left right

end Datum

end SignalGraph.Database
