import SignalGraph.Database.Operator
import Std.Data.HashSet

/-! Rows in order, rows without those that are there before, and rows of two queries made into
one. -/

set_option autoImplicit false

namespace SignalGraph.Database

/-- The values of a row. -/
abbrev RowValues := Array Datum

namespace Rows

/-- What rows are ordered by, one term after the other. -/
abbrev Terms := List (OrderTerm × Collation)

def termsOf (order : List OrderTerm) : Terms :=
  order.map fun term => (term, term.value.ownCollation)

/-- The order of two rows by the values of the terms. -/
def compareKeys : Terms → List Datum → List Datum → Ordering
  | (term, collation) :: terms, a :: as, b :: bs =>
    let nullsFirst := term.nullsFirst.getD !term.down
    let found := match a.isNull, b.isNull with
      | true, true => Ordering.eq
      | true, false => if nullsFirst then .lt else .gt
      | false, true => if nullsFirst then .gt else .lt
      | false, false => if term.down then Datum.order collation b a else Datum.order collation a b
    match found with
    | .eq => compareKeys terms as bs
    | found => found
  | _, _, _ => .eq

/-- Things in the order of their keys; those with the same keys stay as they stand. -/
def sortBy {α : Type} (terms : Terms) (keys : α → List Datum) (things : List α) : List α :=
  if terms.isEmpty then things
  else things.mergeSort fun a b => compareKeys terms (keys a) (keys b) ≠ .gt

/-- Things that stand side by side with the same keys, together. -/
def runs {α : Type} (terms : Terms) (keys : α → List Datum) (things : List α) : List (List α) :=
  (things.foldr (fun thing done =>
    match done with
    | (next :: run) :: others =>
      if compareKeys terms (keys thing) (keys next) = .eq then (thing :: next :: run) :: others
      else [thing] :: done
    | _ => [thing] :: done) [])

/-- A text for some values that only those have too which are the same. -/
def form (collations : List Collation) (values : List Datum) : String :=
  String.intercalate "," (values.zipIdx.map fun (value, place) =>
    value.form (collations.getD place .binary))

/-- Forms of rows that were met. -/
abbrev Seen := Std.HashSet String

/-- The things without those that are the same as one before, or as what was met already. -/
def distinctAfter {α : Type} (seen : Seen) (collations : List Collation) (key : α → List Datum)
    (things : List α) : List α × Seen :=
  let (kept, seen) := things.foldl (fun (kept, (seen : Seen)) thing =>
    let form := form collations (key thing)
    if seen.contains form then (kept, seen) else (thing :: kept, seen.insert form))
    (([] : List α), seen)
  (kept.reverse, seen)

/-- The things without those that are the same as one before. -/
def distinct {α : Type} (collations : List Collation) (key : α → List Datum) (things : List α) :
    List α :=
  (distinctAfter {} collations key things).1

/-- The things without those that are the same as a later one. -/
def latest {α : Type} (collations : List Collation) (key : α → List Datum) (things : List α) :
    List α :=
  (distinct collations key things.reverse).reverse

/-- The rows of two queries made into one. All but a plain chain come out in order. Of rows that
are the same one is kept: the last, or if they are ordered anyway the first of the later query. -/
def combine (operator : Compound) (collations : List Collation) (isOrdered : Bool)
    (left right : List RowValues) : List RowValues :=
  let formOf (row : RowValues) : String := form collations row.toList
  let seen := right.foldl (fun (seen : Seen) row => seen.insert (formOf row)) {}
  let isRight (row : RowValues) : Bool := seen.contains (formOf row)
  let terms : Terms := collations.map fun collation => ({ value := .literal .null }, collation)
  let first := distinct collations Array.toList
  let settle (rows : List RowValues) : List RowValues :=
    sortBy terms Array.toList rows
  match operator with
  | .unionAll => left ++ right
  | .union =>
    if isOrdered then settle ((first left).filter (fun row => !isRight row) ++ first right)
    else settle (latest collations Array.toList (left ++ right))
  | .except => settle ((latest collations Array.toList left).filter fun row => !isRight row)
  | .intersect => settle ((latest collations Array.toList left).filter isRight)

end Rows

end SignalGraph.Database
