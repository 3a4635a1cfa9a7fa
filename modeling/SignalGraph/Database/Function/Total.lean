import SignalGraph.Database.Function.Json

/-! Functions over the rows of a group.

A sum is whole as long as it can be. When it is not, what rounding loses is added up beside it.
-/

set_option autoImplicit false

namespace SignalGraph.Database

open JsonFunction (Argument)

/-- A sum so far. Values can be taken out of it again. -/
structure RunningSum where
  whole : Int := 0
  total : Binary64 := .zero false
  /-- What was lost by rounding. -/
  lost : Binary64 := .zero false
  count : Nat := 0
  /-- It is no longer whole. -/
  rounded : Bool := false
  /-- It is not whole because no word can hold it. -/
  overflowed : Bool := false

namespace RunningSum

def addReal (sum : RunningSum) (x : Binary64) : RunningSum :=
  let total := sum.total + x
  let lost := if x.absolute.less sum.total.absolute then (sum.total - total) + x
    else (x - total) + sum.total
  { sum with total, lost := sum.lost + lost }

/-- A double holds an integer of this size with its neighbours. -/
def isSmall (n : Int) : Bool := -4503599627370496 < n && n < 4503599627370496

def addInteger (sum : RunningSum) (n : Int) : RunningSum :=
  if isSmall n then sum.addReal (.ofInt n)
  else
    let low := n.tmod 16384
    (sum.addReal (.ofInt (n - low))).addReal (.ofInt low)

/-- The sum as a real from now on. -/
def startReal (sum : RunningSum) : RunningSum :=
  let low := if isSmall sum.whole then 0 else sum.whole.tmod 16384
  { sum with total := .ofInt (sum.whole - low), lost := .ofInt low, rounded := true }

/-- The number that a value adds to a sum. -/
def number (value : Datum) : Datum :=
  match value with
  | .text text =>
    let front := NumericFront.ofText text
    if front.complete then front.toDatum else .real front.toReal
  | .blob _ => .real value.toReal
  | value => value

def add (sum : RunningSum) (value : Datum) : RunningSum :=
  let more := { sum with count := sum.count + 1 }
  match number value, sum.rounded with
  | .null, _ => sum
  | .integer n, false =>
    if fitsWord (sum.whole + n) then { more with whole := sum.whole + n }
    else { (more.startReal.addInteger n) with overflowed := true }
  | .integer n, true => more.addInteger n
  | number, false => more.startReal.addReal number.toReal
  | number, true => { (more.addReal number.toReal) with overflowed := false }

/-- The sum without a value that was added before. -/
def remove (sum : RunningSum) (value : Datum) : RunningSum :=
  let less := { sum with count := sum.count - 1 }
  match number value, sum.rounded with
  | .null, _ => sum
  | .integer n, false =>
    if fitsWord (sum.whole - n) then { less with whole := sum.whole - n }
    else { less with overflowed := true, rounded := true }
  | .integer n, true =>
    if n = leastWord then (less.addInteger greatestWord).addInteger 1 else less.addInteger (-n)
  | number, _ => less.addReal (-number.toReal)

def isFinite : Binary64 → Bool
  | .finite _ _ => true
  | _ => false

/-- The sum as a real. -/
def toReal (sum : RunningSum) : Binary64 :=
  if !sum.rounded then .ofInt sum.whole
  else if isFinite sum.lost then sum.total + sum.lost
  else sum.total

def names : List String := ["sum", "total", "avg"]

/-- What a function makes of a sum. -/
def result (name : String) (sum : RunningSum) : Except StatementFault Datum :=
  match name with
  | "total" => .ok (.ofReal sum.toReal)
  | "avg" => .ok (if sum.count = 0 then .null else .ofReal (sum.toReal.divide (.ofNat sum.count)))
  | _ =>
    if sum.count = 0 then .ok .null
    else if !sum.rounded then .ok (.integer sum.whole)
    else if sum.overflowed then .error (.domain "integer overflow")
    else .ok (.ofReal sum.toReal)

end RunningSum

namespace Total

/-- How many arguments the functions take, at least and at most. -/
def signatures : List (String × Nat × Nat) :=
  [("avg", 1, 1), ("count", 0, 1), ("group_concat", 1, 2), ("max", 1, 1), ("min", 1, 1),
   ("string_agg", 2, 2), ("sum", 1, 1), ("total", 1, 1), ("json_group_array", 1, 1),
   ("json_group_object", 2, 2), ("jsonb_group_array", 1, 1), ("jsonb_group_object", 2, 2)]

/-- The result depends on the order of the rows; that of a sum does so by rounding. -/
def isOrdered (name : String) : Bool := name ∉ ["count", "max", "min"]

/-- The greatest or least of some values, the first of several; null if there is none. -/
def extreme (collation : Collation) (greatest : Bool) (values : List Datum) : Datum :=
  let wins : Ordering := if greatest then .gt else .lt
  match values with
  | [] => .null
  | first :: rest => rest.foldl (fun best value =>
      if Datum.order collation value best = wins then value else best) first

/-- Texts one behind the other, each but the first with a text of its own in front. -/
def joined : List (Datum × Option Datum) → Datum
  | [] => .null
  | (first, _) :: rest =>
    let bytes := rest.foldl (fun done (value, between) =>
      let between := (between.map Datum.bytes).getD (Bytes.ofChars [','])
      done ++ between ++ value.bytes) first.bytes
    .text (Bytes.toText bytes)

/-- The value of a function over rows of arguments. -/
def value (collation : Collation) (name : String) (rows : List (List Argument)) :
    Except StatementFault Argument := do
  let plain (value : Datum) : Argument := (value, false)
  let datum (row : List Argument) (place : Nat) : Datum := (row.getD place (.null, false)).1
  let told := rows.filter fun row => !(datum row 0).isNull
  let firsts := told.map fun row => datum row 0
  let binary := name.startsWith "jsonb"
  if name ∈ RunningSum.names then
    return plain (← (firsts.foldl RunningSum.add {}).result name)
  else
    match name with
    | "count" => return plain (.integer firsts.length)
    | "max" => return plain (extreme collation true firsts)
    | "min" => return plain (extreme collation false firsts)
    | "json_group_array" | "jsonb_group_array" =>
      JsonFunction.array binary (rows.map fun row => row.headD (.null, false))
    | "json_group_object" | "jsonb_group_object" =>
      let members ← told.mapM fun row => do
        return ((datum row 0).asText, ← JsonFunction.written (row.getD 1 (.null, false)))
      return JsonFunction.textResult binary (JsonFunction.objectText members)
    | _ =>
      return plain (joined (told.map fun row => (datum row 0, (row[1]?).map fun entry => entry.1)))

end Total

end SignalGraph.Database
