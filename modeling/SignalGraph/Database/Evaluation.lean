import SignalGraph.Database.Grouping
import SignalGraph.Database.Listing
import SignalGraph.Database.Window

/-! The values of expressions, and the rows of queries.

Rows come one by one, and nothing is looked at before it is asked for. The rows of sources are joined
one source after the other, each found as it is planned, and a condition is looked at where it stands
in the plan.
-/

set_option autoImplicit false

namespace SignalGraph.Database

open JsonFunction (Argument)

/-- A query over its own rows in the middle of its work. -/
structure Unrolling where
  /-- Rows that are still to be told with what they are ordered by, and behind them those that came
  later, the latest first. -/
  front : List (RowValues × List Datum) := []
  back : List (RowValues × List Datum) := []
  /-- The rows so far, if none of them may come again. -/
  seen : Rows.Seen := {}

namespace Unrolling

/-- The next row that is to be told. -/
def next? (state : Unrolling) : Option (RowValues × Unrolling) :=
  match state.front with
  | (row, _) :: front => some (row, { state with front })
  | [] =>
    match state.back.reverse with
    | (row, _) :: front => some (row, { state with front, back := [] })
    | [] => none

/-- Put rows where they belong. -/
def add (state : Unrolling) (terms : Rows.Terms) (rows : List (RowValues × List Datum)) :
    Unrolling :=
  if terms.isEmpty then { state with back := rows.reverse ++ state.back }
  else { state with front := Rows.sortBy terms (fun entry => entry.2) (state.front ++ rows) }

end Unrolling

/-- What the rows of a query are asked for. -/
inductive Asking where
  /-- All of them are kept. -/
  | every
  /-- They go on one by one. If they are put in order and only some are asked for, values are made
  of those alone that are among the first so far. -/
  | passing
  /-- The values of one row. -/
  | single
  /-- Whether there is one. -/
  | presence
  /-- Nothing but what comes of looking at them. -/
  | nothing
  deriving DecidableEq

/-- How the rows of a source are got at. -/
structure Reading where
  table : Option Table := none
  /-- Its rows, perhaps the last ones first, for what is before them in a row. -/
  rows : Bool → RowValues → RowFlow
  /-- What an index tells about them. -/
  entries : Index → Flow Stop Table.Entry := fun _ => .done
  /-- The rows in an order that was made for them. -/
  sorted : RowFlow := .done

/-- What a column of an index has to be, and how it is compared with that. -/
structure Sought where
  value : Datum
  leaning : Leaning
  collation : Collation

def Sought.isMet (sought : Sought) (found : Datum) : Bool :=
  if sought.value.isNull then found.isNull
  else Datum.compareAs? sought.leaning sought.collation found sought.value = some .eq

namespace World

/-- Whether a value is one of some others; null leaves it open. -/
def isAmong (found : Datum) (values : List Datum) (leaning : Leaning) (collation : Collation) :
    Datum :=
  if values.isEmpty then .ofBool false
  else if found.isNull then .null
  else if values.any fun other => Datum.compareAs? leaning collation found other = some .eq then
    .ofBool true
  else if values.any Datum.isNull then .null
  else .ofBool false

/-- A message as it is told: up to the first zero byte. -/
def messageText (value : Datum) : String :=
  Bytes.shown (Bytes.toText ((Bytes.ofText value.asText).takeWhile (· ≠ 0)))

/-- The values that a column is looked up by, in the order in which they are looked up. -/
def soughtAmong (values : List Datum) (leaning : Leaning) (collation : Collation)
    (backward : Bool) : List Sought :=
  let values := (values.map fun value => value.leanTo leaning).filter fun value => !value.isNull
  let sorted := values.mergeSort fun a b => Datum.order collation a b ≠ .gt
  let once := Rows.distinct [collation] (fun value => [value]) sorted
  (if backward then once.reverse else once).map fun value => { value, leaning, collation }

/-- The combinations of what several columns may be, those of the first one outermost. -/
def combinations : List (List Sought) → List (List Sought)
  | [] => [[]]
  | first :: rest => first.flatMap fun sought => (combinations rest).map (sought :: ·)

/-- A test of a value by a bound; there is none that passes if the bound is null. -/
def boundTest? (value : Option (Datum × Leaning)) (inclusive isLow : Bool)
    (collation : Collation) : Option (Datum → Bool) :=
  match value with
  | none => some fun found => !found.isNull
  | some (value, leaning) =>
    if value.isNull then none
    else some fun found =>
      match Datum.compareAs? leaning collation found value with
      | none => false
      | some .eq => inclusive
      | some found => found = if isLow then .gt else .lt

/-- Conjunctions and alternatives of truth values. -/
def bothTrue (left right : Option Bool) : Datum :=
  match left, right with
  | some false, _ | _, some false => .ofBool false
  | some true, some true => .ofBool true
  | _, _ => .null

def eitherTrue (left right : Option Bool) : Datum :=
  match left, right with
  | some true, _ | _, some true => .ofBool true
  | some false, some false => .ofBool false
  | _, _ => .null

/-- The sources in groups: those of which one row is enough, as far as they stand side by side. -/
def steps (sources : List (Source × Reading)) : List (List (Source × Reading)) :=
  sources.foldr (fun entry done =>
    match done with
    | (next :: run) :: others =>
      if entry.1.once && next.1.once then (entry :: next :: run) :: others else [entry] :: done
    | _ => [entry] :: done) []

mutual

def value (world : World) (fuel : Nat) (frame : Frame) (target : Expression) : Evaluating Datum :=
  match fuel with
  | 0 => Evaluating.refuse (.statement .constructorLimit)
  | fuel + 1 =>
    let of (inner : Expression) : Evaluating Datum := value world fuel frame inner
    match target with
    | .literal value => return value
    | .numeral written => Evaluating.ofStatement (Literal.numeralValue written)
    | .parameter number => return world.parameters.getD (number - 1) .null
    | .name _ _ | .vector _ => return .null
    | .slot level place _ _ => return frame.value level place
    | .marked inner _ | .standing inner _ _ => of inner
    | .merged columns => firstValue world fuel frame columns
    | .unary operator operand => do
      let found ← of operand
      match operator with
      | .negate => return found.negate
      | .plus => return found
      | .complement => return if found.isNull then .null else .integer (-found.toInt - 1)
      | .not => return Datum.ofTruth (found.truth?.map not)
      | .isNull => return .ofBool found.isNull
      | .notNull => return .ofBool !found.isNull
    | .binary .and left right | .binary .or left right => do
      let isAnd := match target with
        | .binary .and _ _ => true
        | _ => false
      match target.simplified with
      | .binary _ _ _ =>
        let (first, second) := if Expression.isRightFirst left right then (right, left)
          else (left, right)
        let found := (← of first).truth?
        if second.hasQuery && found = some !isAnd then return .ofBool !isAnd
        else
          let other := (← of second).truth?
          return if isAnd then bothTrue found other else eitherTrue found other
      | simple => return Datum.ofTruth (← of simple).truth?
    | .binary operator left right => do
      if operator.isComparison && (left.width ≠ 1 || operator = .is || operator = .isNot) then
        let lefts ← sides world fuel frame left
        return Datum.Side.compared operator lefts (← sides world fuel frame right)
      else
        let combined (a b : Datum) : Datum :=
          if operator.isComparison then Datum.Side.compared operator [⟨a, left⟩] [⟨b, right⟩]
          else Datum.combined operator a b
        if Expression.isRightFirst left right then
          let second ← of right
          if second.isNull then return .null
          else return combined (← of left) second
        else
          let first ← of left
          if first.isNull && right.hasQuery then return .null
          else return combined first (← of right)
    | .counts operand asTrue => do
      return .ofBool ((← of operand).truth? = some asTrue)
    | .between operand low high => do
      let found ← sides world fuel frame operand
      let above := Datum.Side.compared .atLeast found (← sides world fuel frame low)
      if high.hasQuery && above.truth? = some false then return .ofBool false
      else
        let below := Datum.Side.compared .atMost found (← sides world fuel frame high)
        return bothTrue above.truth? below.truth?
    | .among _ [] => return .ofBool false
    | .among operand choices => do
      let leaning := operand.leaning?.getD .blob
      if 2 < choices.length && choices.all (Expression.isConstant world.fired) then
        let values ← choices.mapM of
        return isAmong (← of operand) values leaning operand.ownCollation
      else amongSome world fuel frame (← of operand) operand choices false
    | .amongRows operand query => do
      let found ← sides world fuel frame operand
      let rows ← (queryFlow world fuel frame query .passing).toList
      let expressions := Expression.lastValues query
      return Datum.Side.among found (rows.map fun row =>
        expressions.zipIdx.map fun (expression, place) => ⟨row.getD place .null, expression⟩)
    | .component place whole => do
      return ((← sides world fuel frame whole)[place]?.map Datum.Side.value).getD .null
    | .choose _ _ _ | .call _ | .total _ _ | .kept _ _ _ => do
      return (← argument world fuel frame target).1
    | .cast operand type => return (← of operand).cast (.ofType type)
    | .collate operand _ => of operand
    | .scalar query => do
      let row? ← (queryFlow world fuel frame query .single).head?
      return (row?.map fun row => row.getD 0 .null).getD .null
    | .isThere query =>
      return .ofBool (← (queryFlow world fuel frame query .presence).head?).isSome
    | .raise .ignore _ => throw .ignore
    | .raise policy message => do
      let text := messageText (← of message)
      throw (.fault (.violation .refusal text) policy)
termination_by structural fuel

/-- A condition holds, where the unknown counts as told. Its parts are looked at one after the
other, and only as far as they matter. -/
def fits (world : World) (fuel : Nat) (frame : Frame) (condition : Expression) (ifUnknown : Bool) :
    Evaluating Bool :=
  match fuel with
  | 0 => Evaluating.refuse (.statement .constructorLimit)
  | fuel + 1 => do
    match condition with
    | .binary .and left right | .binary .or left right =>
      let isAnd := match condition with
        | .binary .and _ _ => true
        | _ => false
      match condition.simplified with
      | .binary _ _ _ =>
        let (first, second) := if Expression.isRightFirst left right then (right, left)
          else (left, right)
        if (← fits world fuel frame first ifUnknown) = isAnd then
          fits world fuel frame second ifUnknown
        else return !isAnd
      | simple => fits world fuel frame simple ifUnknown
    | .between operand low high =>
      let found ← sides world fuel frame operand
      let test (operator : Binary) (other : Expression) : Evaluating Bool := do
        let result := Datum.Side.compared operator found (← sides world fuel frame other)
        return result.truth?.getD ifUnknown
      if ← test .atLeast low then test .atMost high else return false
    | .unary .not operand => return !(← fits world fuel frame operand !ifUnknown)
    | .counts operand true => fits world fuel frame operand false
    | .counts operand false => return !(← fits world fuel frame operand true)
    | condition => return ((← value world fuel frame condition).truth?).getD ifUnknown
termination_by structural fuel

/-- Whether a value is one of others, that are looked at one after the other up to the first. -/
def amongSome (world : World) (fuel : Nat) (frame : Frame) (found : Datum) (operand : Expression)
    (choices : List Expression) (isOpen : Bool) : Evaluating Datum :=
  match fuel with
  | 0 => Evaluating.refuse (.statement .constructorLimit)
  | fuel + 1 =>
    match choices with
    | [] => return if isOpen then .null else .ofBool false
    | choice :: rest => do
      let other ← value world fuel frame choice
      let same := isAmong found [other] (operand.leaning?.getD .blob) operand.ownCollation
      match same.truth? with
      | some true => return .ofBool true
      | some false => amongSome world fuel frame found operand rest isOpen
      | none => amongSome world fuel frame found operand rest true
termination_by structural fuel

/-- The first value that is not null. -/
def firstValue (world : World) (fuel : Nat) (frame : Frame) (columns : List Expression) :
    Evaluating Datum :=
  match fuel with
  | 0 => Evaluating.refuse (.statement .constructorLimit)
  | fuel + 1 =>
    match columns with
    | [] => return .null
    | column :: rest => do
      let found ← value world fuel frame column
      if found.isNull then firstValue world fuel frame rest else return found
termination_by structural fuel

/-- The values of an expression that may have several. -/
def sides (world : World) (fuel : Nat) (frame : Frame) (target : Expression) :
    Evaluating (List Datum.Side) :=
  match fuel with
  | 0 => Evaluating.refuse (.statement .constructorLimit)
  | fuel + 1 => do
    match target with
    | .vector items => items.mapM fun item => do return ⟨← value world fuel frame item, item⟩
    | .scalar query =>
      let row := (← (queryFlow world fuel frame query .single).head?).getD #[]
      if target.width = 1 then return [⟨row.getD 0 .null, target⟩]
      else return target.components.zipIdx.map fun (item, place) => ⟨row.getD place .null, item⟩
    | target => return [⟨← value world fuel frame target, target⟩]
termination_by structural fuel

/-- A value, and whether it is JSON text. -/
def argument (world : World) (fuel : Nat) (frame : Frame) (target : Expression) :
    Evaluating Argument :=
  match fuel with
  | 0 => Evaluating.refuse (.statement .constructorLimit)
  | fuel + 1 => do
    match target with
    | .call call => callValue world fuel frame call.name call.arguments
    | .total level call => return frame.total level call.number
    | .choose base arms otherwise =>
      let against ← base.mapM fun base => do
        return (⟨← value world fuel frame base, base⟩ : Datum.Side)
      chooseArm world fuel frame against arms otherwise
    | .collate operand _ | .unary .plus operand | .standing operand _ _ =>
      argument world fuel frame operand
    | .kept operand leaning isMade =>
      let world := if isMade then { world with timeless := some "a generated column" } else world
      let (found, isJson) ← argument world fuel frame operand
      return (found.leanTo leaning, isJson)
    | .marked inner mark =>
      let found ← value world fuel frame inner
      return (found, ← fits world fuel frame mark false)
    | target => return (← value world fuel frame target, false)
termination_by structural fuel

/-- The first arm whose condition holds, or whose value is the one looked for. -/
def chooseArm (world : World) (fuel : Nat) (frame : Frame) (base : Option Datum.Side)
    (arms : List (Expression × Expression)) (otherwise : Expression) : Evaluating Argument :=
  match fuel with
  | 0 => Evaluating.refuse (.statement .constructorLimit)
  | fuel + 1 =>
    match arms with
    | [] => argument world fuel frame otherwise
    | (condition, result) :: rest => do
      let isMeant ← match base with
        | some against => do
          let found ← value world fuel frame condition
          pure (Datum.Side.same? false against ⟨found, condition⟩ == some true)
        | none => fits world fuel frame condition false
      if isMeant then argument world fuel frame result
      else chooseArm world fuel frame base rest otherwise
termination_by structural fuel

/-- The value of a function. Some look at their arguments only as far as they have to. -/
def callValue (world : World) (fuel : Nat) (frame : Frame) (function : String)
    (arguments : List Expression) : Evaluating Argument :=
  match fuel with
  | 0 => Evaluating.refuse (.statement .constructorLimit)
  | fuel + 1 =>
    if !Function.isKnown function then
      Evaluating.refuse (.statement (.unknownFunction function))
    else
      match function, arguments with
      | "coalesce", first :: rest | "ifnull", first :: rest => do
        let found ← argument world fuel frame first
        if found.1.isNull && !rest.isEmpty then callValue world fuel frame function rest
        else return found
      | "iif", [otherwise] | "if", [otherwise] => argument world fuel frame otherwise
      | "iif", condition :: result :: rest | "if", condition :: result :: rest => do
        if ← fits world fuel frame condition false then
          argument world fuel frame result
        else if rest.isEmpty then return (.null, false)
        else callValue world fuel frame function rest
      | "likely", [inner] | "unlikely", [inner] | "likelihood", [inner, _] =>
        argument world fuel frame inner
      | function, arguments => do
        let values ← arguments.mapM (argument world fuel frame)
        match world.timeless with
        | some place =>
          let plain := values.map fun entry => entry.1
          if TimeFunction.isName function ∧
              TimeFunction.isPresent world.around.now function plain then
            throw (.fault (.statement
              (.domain s!"non-deterministic use of {function}() in {place}")) .abort)
        | none => pure ()
        let name? := arguments.findSome? Expression.collation?
        let collation := (name?.bind Collation.ofName?).getD .binary
        Evaluating.ofStatement (Function.apply world.around collation function values)
termination_by structural fuel

/-- What functions make of the rows of a group. The rows are looked at one after the other. -/
def totals (world : World) (fuel : Nat) (frame : Frame) (calls : List Call)
    (rows : List RowValues) : Evaluating (List Argument) :=
  match fuel with
  | 0 => Evaluating.refuse (.statement .constructorLimit)
  | fuel + 1 => do
    let taken ← rows.mapM fun row => do
      let inner := frame.push row
      calls.mapM fun call => do
        let kept ← match call.filter with
          | some condition => fits world fuel inner condition false
          | none => pure true
        if kept then
          let arguments ← call.given.mapM (argument world fuel inner)
          let keys ← call.order.mapM fun term => value world fuel inner term.value
          return some (arguments, keys)
        else return none
    calls.zipIdx.mapM fun (call, index) => do
      let own := taken.filterMap fun row => (row[index]?).join
      Evaluating.ofStatement (call.valueOf own)
termination_by structural fuel

/-- The rows of a source that is no table. What a function is asked for it may find in the row. -/
def contentFlow (world : World) (fuel : Nat) (frame : Frame) (content : SourceContent)
    (row : RowValues) : RowFlow :=
  match fuel with
  | 0 => .halt (.fault (.statement .constructorLimit) .abort)
  | fuel + 1 =>
    match content with
    | .call name arguments =>
      Flow.ofExcept do
        let arguments ← arguments.mapM (value world fuel (frame.push row))
        let rows ← Evaluating.ofStatement (Listing.rows world.pages world.catalog name arguments)
        return .ofList rows
    | .query query => queryFlow world fuel frame query .passing
    | .recursion recursion => recursionFlow world fuel frame recursion
    | .current name => .ofList
        ((frame.current.find? fun entry => sameName entry.1 name).toList.map fun entry => entry.2)
    | .joined _ | .table _ => .done
termination_by structural fuel

/-- Make ready to read a source. The rows of the outermost one come one by one; what others have is
kept, so that it can be read again. -/
def reading (world : World) (fuel : Nat) (frame : Frame) (source : Source) (isOutermost : Bool) :
    Evaluating Reading :=
  match fuel with
  | 0 => Evaluating.refuse (.statement .constructorLimit)
  | fuel + 1 => do
    let turned (backward : Bool) (flow : RowFlow) : RowFlow :=
      if backward then
        let (rows, fault) := flow.collect
        .replay (rows.reverse, fault)
      else flow
    let found : Reading ← match source.content with
      | .table name =>
        match Scope.table? world.catalog name with
        | none => pure { rows := fun _ _ => .done }
        | some table =>
          if isOutermost then
            pure { table := some table
                   rows := fun backward _ => turned backward (world.keptRows table)
                   entries := world.entries table }
          else
            let rows := Thunk.mk fun _ => (world.keptRows table).collect
            let entries := table.indexes.map fun index =>
              (index.name, Thunk.mk fun _ => (world.entries table index).collect)
            pure { table := some table
                   rows := fun backward _ => turned backward (.replay rows.get)
                   entries := fun index =>
                     match entries.find? fun entry => entry.1 = index.name with
                     | some entry => .replay entry.2.get
                     | none => .done }
      | .call _ _ | .current _ =>
        pure { rows := fun backward row =>
                 turned backward (contentFlow world fuel frame source.content row) }
      | .query query =>
        if source.streamed then
          pure { rows := fun backward row =>
                   turned backward (contentFlow world fuel frame source.content row) }
        else
          let rows ← (queryFlow world fuel frame query .every).toList
          pure { rows := fun backward _ => turned backward (.ofList rows) }
      | content =>
        if source.streamed then
          pure { rows := fun backward row =>
                   turned backward (contentFlow world fuel frame content row) }
        else
          let rows ← (contentFlow world fuel frame content #[]).toList
          pure { rows := fun backward _ => turned backward (.ofList rows) }
    match source.access with
    | some (.sorted others conditions) =>
      let arranged := Thunk.mk fun _ =>
        let kept := (found.rows false #[]).filterM fun row =>
          let whole := RowValues.overlay #[] source.place row
          conditions.allM fun condition => fits world fuel (frame.push whole) condition false
        let (rows, fault) := kept.collect
        let terms : Rows.Terms := others.map fun _ => ({ value := .literal .null }, .binary)
        (Rows.sortBy terms (fun row => others.map fun place => row.getD place .null) rows, fault)
      return { found with sorted := .replay arranged.get }
    | _ => return found
termination_by structural fuel

/-- What a column that leans is looked up by, one after the other. -/
def soughtBy (world : World) (fuel : Nat) (frame : Frame) (leaning : Option Leaning)
    (collation : Collation) (backward : Bool) (probe : Probe) : Evaluating (List Sought) :=
  match fuel with
  | 0 => Evaluating.refuse (.statement .constructorLimit)
  | fuel + 1 => do
    match probe with
    | .equal target =>
      let found ← value world fuel frame target
      let sought : Sought :=
        { value := found, leaning := Datum.comparedAs leaning target.leaning?, collation }
      return if found.isNull then [] else [sought]
    | .same target =>
      let found ← value world fuel frame target
      return [{ value := found, leaning := Datum.comparedAs leaning target.leaning?, collation }]
    | .isNull => return [{ value := .null, leaning := .blob, collation }]
    | .among choices =>
      let values ← choices.mapM (value world fuel frame)
      return soughtAmong values (leaning.getD .blob) collation backward
    | .amongRows query place =>
      let rows ← (queryFlow world fuel frame query .passing).toList
      let other := ((Expression.lastValues query)[place]?).bind Expression.leaning?
      let values := rows.map fun row => row.getD place .null
      return soughtAmong values (Datum.comparedAs leaning other) collation backward
termination_by structural fuel

/-- The test that a bound makes; there is none that passes if the bound is null. -/
def boundBy (world : World) (fuel : Nat) (frame : Frame) (leaning : Option Leaning)
    (collation : Collation) (isLow : Bool) (bound : Option Bound) :
    Evaluating (Option (Datum → Bool)) :=
  match fuel with
  | 0 => Evaluating.refuse (.statement .constructorLimit)
  | fuel + 1 => do
    match bound with
    | none => return some fun _ => true
    | some { value := none, inclusive } => return boundTest? none inclusive isLow collation
    | some { value := some target, inclusive } =>
      let found ← value world fuel frame target
      let leaning := Datum.comparedAs leaning target.leaning?
      return boundTest? (some (found, leaning)) inclusive isLow collation
termination_by structural fuel

/-- The rows of a source that go with a row, found by an access, each behind that row. Conditions
are looked at first where the values of an index are enough, and then with the whole row. -/
def found (world : World) (fuel : Nat) (frame : Frame) (source : Source) (reading : Reading)
    (row : RowValues) (access : Option Access) (early checks : List Expression) : RowFlow :=
  match fuel with
  | 0 => .halt (.fault (.statement .constructorLimit) .abort)
  | fuel + 1 =>
    let holds (conditions : List Expression) (whole : RowValues) : Evaluating Bool :=
      conditions.allM fun condition => fits world fuel (frame.push whole) condition false
    let marked (number : Nat) (whole : RowValues) : RowValues :=
      match source.presence with
      | some place => RowValues.overlay whole place #[.integer number]
      | none => whole
    let among (others : RowFlow) : RowFlow :=
      others.through (fun number other => do
        let whole := marked number (RowValues.overlay row source.place other)
        if ← holds (early ++ checks) whole then return (number + 1, some whole)
        else return (number + 1, none)) 1
    let inner := frame.push row
    match access with
    | none => among (reading.rows false row)
    | some (.scan backward) => among (reading.rows backward row)
    | some (.sorted _ _) => among reading.sorted
    | some (.numbers (some probe) _ _ backward) =>
      Flow.ofExcept do
        let sought ← soughtBy world fuel inner (some .integer) .binary backward probe
        let others := (Flow.ofList sought).filterMapM fun sought =>
          match reading.table, (sought.value.leanTo .integer).settle with
          | some table, .integer key => world.rowAt table [.integer key]
          | _, _ => return none
        return among others
    | some (.numbers none low high backward) =>
      Flow.ofExcept do
        let low ← boundBy world fuel inner (some .integer) .binary true low
        let high ← boundBy world fuel inner (some .integer) .binary false high
        match low, high, reading.table with
        | some low, some high, some table =>
          return among ((reading.rows backward row).filterM fun other =>
            let number := other.getD table.columns.length .null
            return low number && high number)
        | _, _, _ => return .done
    | some (.index name probes low high backward covering nullsAcross) =>
      match reading.table.bind fun table =>
          (table.indexes.find? fun index => index.name = name).map fun index => (table, index) with
      | none => .halt (.fault .broken .abort)
      | some (table, index) =>
        Flow.ofExcept do
          let collationOf (term : IndexTerm) : Collation :=
            (Collation.ofName? term.collation).getD .binary
          let sought ← (probes.zip index.terms).mapM fun (probe, term) =>
            soughtBy world fuel inner term.value.leaning? (collationOf term)
              (term.down != backward) probe
          let ranged := index.terms[probes.length]?
          let leaning := ranged.bind fun term => term.value.leaning?
          let collation := (ranged.map collationOf).getD .binary
          let low ← boundBy world fuel inner leaning collation true low
          let high ← boundBy world fuel inner leaning collation false high
          match low, high with
          | some low, some high =>
            let next (entry : Table.Entry) : Datum := entry.values.getD probes.length .null
            let pick (sought : List Sought) : Flow Stop Table.Entry :=
              let kept := (reading.entries index).filterM fun entry =>
                return (sought.zip entry.values).all (fun (sought, found) => sought.isMet found) &&
                  low (next entry) && high (next entry)
              if backward || nullsAcross then
                let (entries, fault) := kept.collect
                let entries := if backward then entries.reverse else entries
                let isNull (entry : Table.Entry) : Bool := (next entry).isNull
                let (nulls, others) := entries.partition isNull
                let isFirst := (entries.head?.map isNull).getD false
                .replay (if !nullsAcross then entries else if isFirst then others ++ nulls
                  else nulls ++ others, fault)
              else kept
            let entries := (Flow.ofList (combinations sought)).flatMap pick
            let empty : RowValues := Array.replicate table.rowWidth Datum.null
            return entries.filterMapM fun entry => do
              let start := RowValues.overlay row source.place empty
              let part := marked 1 (entry.onto source.place start)
              if !(← holds early part) then return none
              else
                let whole ← if covering then pure part
                  else
                    match ← world.rowAt table entry.identity with
                    | none => Evaluating.refuse .broken
                    | some other =>
                      pure (marked 1 (entry.onto source.place
                        (RowValues.overlay row source.place other)))
                return if ← holds checks whole then some whole else none
          | _, _ => return .done
    | some (.either parts) =>
      let all := (Flow.ofList parts).flatMap fun (access, early, checks) =>
        found world fuel frame source reading row (some access) early checks
      let once := all.through (fun (seen : Rows.Seen) whole =>
        let identity := (reading.table.map fun table => table.identity
          (whole.extract source.place (source.place + table.rowWidth))).getD []
        let form := Rows.form [] identity
        .ok (if seen.contains form then (seen, none) else (seen.insert form, some whole))) {}
      once.filterM (holds (early ++ checks))
termination_by structural fuel

/-- Rows with those of one more source behind each of them. -/
def joinStep (world : World) (fuel : Nat) (frame : Frame) (source : Source) (reading : Reading)
    (rows : RowFlow) : RowFlow :=
  match fuel with
  | 0 => .halt (.fault (.statement .constructorLimit) .abort)
  | fuel + 1 =>
    let matching (row : RowValues) : RowFlow :=
      let whole := found world fuel frame source reading row source.access source.early source.checks
      if source.join = .left || source.join = .full then whole.orElse fun _ => .single row
      else whole
    let joined := rows.flatMap matching
    let joined := if source.join = .right || source.join = .full then
        let formOf (whole : RowValues) : String :=
          let identity := match reading.table with
            | some table => table.identity
                (whole.extract source.place (source.place + table.rowWidth))
            | none => [whole.getD (source.presence.getD whole.size) .null]
          Rows.form [] identity
        joined.endingWith (fun (seen : Rows.Seen) whole => seen.insert (formOf whole))
          (fun seen =>
            let alone := found world fuel frame source reading #[] none [] []
            alone.filterM fun whole => return !seen.contains (formOf whole)) {}
      else joined
    if source.afterwards.isEmpty then joined
    else joined.filterM fun whole =>
      source.afterwards.allM fun condition => fits world fuel (frame.push whole) condition false
termination_by structural fuel

/-- The rows that sources make together. -/
def joinedFlow (world : World) (fuel : Nat) (frame : Frame) (sources : List (Source × Reading)) :
    RowFlow :=
  match fuel with
  | 0 => .halt (.fault (.statement .constructorLimit) .abort)
  | fuel + 1 =>
    let add (rows : RowFlow) (entry : Source × Reading) : RowFlow :=
      joinStep world fuel frame entry.1 entry.2 rows
    (steps sources).foldl (fun rows group =>
      if group.any fun entry => entry.1.once then
        rows.flatMap fun row => (group.foldl add (.single row)).take 1
      else group.foldl add rows) (.single #[])
termination_by structural fuel

/-- Put rows in the queue of a query over its own rows, without those that were there before if none
may come again. -/
def enqueue (world : World) (fuel : Nat) (frame : Frame) (recursion : Recursion)
    (state : Unrolling) (rows : List RowValues) : Evaluating Unrolling :=
  match fuel with
  | 0 => Evaluating.refuse (.statement .constructorLimit)
  | fuel + 1 => do
    let cores := recursion.start.core :: recursion.start.rest.map (fun entry => entry.2) ++
      recursion.repeated
    let (fresh, seen) := if recursion.distinct then
        Rows.distinctAfter state.seen (Core.collations cores) Array.toList rows
      else (rows, state.seen)
    let keyed ← fresh.mapM fun row => do
      return (row, ← recursion.order.mapM fun term =>
        value world fuel (frame.push row) term.value)
    return { state with seen }.add (Rows.termsOf recursion.order) keyed
termination_by structural fuel

/-- The rows that are still to be told, each before those that follow from it are asked for. -/
def unroll (world : World) (fuel : Nat) (frame : Frame) (recursion : Recursion)
    (state : Unrolling) : RowFlow :=
  match fuel with
  | 0 => .halt (.fault (.statement .constructorLimit) .abort)
  | fuel + 1 =>
    match state.next? with
    | none => .done
    | some (row, state) =>
      .item row fun _ => Flow.ofExcept do
        let inner := { frame with current := (recursion.name, row) :: frame.current }
        let rows ← recursion.repeated.mapM fun core => do
          let readings ← readings world fuel inner core.sources
          (coreFlow world fuel inner core readings [] .every none 0).toList
        return unroll world fuel frame recursion
          (← enqueue world fuel frame recursion state rows.flatten)
termination_by structural fuel

/-- The rows of a query over its own rows. -/
def recursionFlow (world : World) (fuel : Nat) (frame : Frame) (recursion : Recursion) : RowFlow :=
  match fuel with
  | 0 => .halt (.fault (.statement .constructorLimit) .abort)
  | fuel + 1 =>
    Flow.ofExcept do
      let (most, skip) ← limits world fuel frame recursion.limit recursion.offset false
      if most = some 0 then return .done
      else
        let start ← (queryFlow world fuel frame recursion.start .every).toList
        let state ← enqueue world fuel frame recursion {} start
        return ((unroll world fuel frame recursion state).drop skip).takeAtMost most
termination_by structural fuel

/-- The values of functions over windows behind the row of each frame, and the frames in the order
of the first window. -/
def windowFrames (world : World) (fuel : Nat) (core : Core) (frames : List Frame) :
    Evaluating (List Frame) :=
  match fuel with
  | 0 => Evaluating.refuse (.statement .constructorLimit)
  | fuel + 1 =>
    core.sharedWindows.reverse.foldlM (fun frames (window, calls) => do
      let keyed ← frames.mapM fun inner => do
        let partition ← window.partition.mapM (value world fuel inner)
        let keys ← window.order.mapM fun term => value world fuel inner term.value
        return (inner, partition, keys)
      let partitionTerms := Rows.termsOf (window.partition.map fun value => { value })
      let orderTerms := Rows.termsOf window.order
      let sorted := Rows.sortBy (partitionTerms ++ orderTerms)
        (fun entry => entry.2.1 ++ entry.2.2) keyed
      let parts := Rows.runs partitionTerms (fun entry => entry.2.1) sorted
      let frame := window.frame.getD Window.usualFrame
      let results ← parts.mapM fun part =>
        calls.foldlM (fun frames (place, call) => do
          let members ← (frames.zip part).mapM fun (inner, entry) => do
            let arguments ← call.given.mapM (argument world fuel inner)
            let kept ← match call.filter with
              | some condition => fits world fuel inner condition false
              | none => pure true
            return ({ keys := entry.2.2, arguments, kept } : Windowing.Member)
          let outside := (part.head?.map fun entry => entry.1).getD {}
          let task : Windowing.Task :=
            { function := call.name, unit := frame.unit, exclusion := frame.exclusion
              collation := (call.given.head?.map Expression.ownCollation).getD .binary
              terms := orderTerms
              start := ← edge world fuel outside frame.start
              stop := ← edge world fuel outside frame.stop }
          let values ← Evaluating.ofStatement (task.run members)
          return List.zipWith (fun (inner : Frame) value =>
            inner.withValue (core.width + place) value) frames values)
          (part.map fun entry => entry.1)
      return results.flatten) frames
termination_by structural fuel

def edge (world : World) (fuel : Nat) (frame : Frame) (bound : FrameBound) :
    Evaluating Windowing.Edge :=
  match fuel with
  | 0 => Evaluating.refuse (.statement .constructorLimit)
  | fuel + 1 =>
    match bound with
    | .unbounded => return .unbounded
    | .current => return .current
    | .before amount => return .before (← value world fuel frame amount)
    | .after amount => return .after (← value world fuel frame amount)
termination_by structural fuel

/-- Make ready to read the sources of a part of a query, those that are kept in the order in which
they are written. -/
def readings (world : World) (fuel : Nat) (frame : Frame) (sources : List Source) :
    Evaluating (List (Source × Reading)) :=
  match fuel with
  | 0 => Evaluating.refuse (.statement .constructorLimit)
  | fuel + 1 => do
    let written := sources.zipIdx.mergeSort fun a b => a.1.rank ≤ b.1.rank
    let ready ← written.mapM fun (source, index) => do
      return (index, source, ← reading world fuel frame source (index = 0))
    return (ready.mergeSort fun a b => a.1 ≤ b.1).map fun entry => entry.2
termination_by structural fuel

/-- The frames that values are made in: one for each row, or for each group of rows. -/
def coreFrames (world : World) (fuel : Nat) (frame : Frame) (core : Core)
    (sources : List (Source × Reading)) : Flow Stop Frame :=
  match fuel with
  | 0 => .halt (.fault (.statement .constructorLimit) .abort)
  | fuel + 1 =>
    let rows := Flow.ofExcept do
      let isOpen ← core.fixed.allM fun condition =>
        fits world fuel (frame.push #[]) condition false
      return if isOpen then joinedFlow world fuel frame sources else .done
    let frames := if core.grouped then groupFrames world fuel frame core rows
      else rows.map frame.push
    let frames := match core.having with
      | some condition => frames.filterM fun inner => fits world fuel inner condition false
      | none => frames
    if core.windows.isEmpty then frames
    else Flow.ofExcept do
      return .ofList (← windowFrames world fuel core (← frames.toList))
termination_by structural fuel

/-- One frame for each group of rows. -/
def groupFrames (world : World) (fuel : Nat) (frame : Frame) (core : Core) (rows : RowFlow) :
    Flow Stop Frame :=
  match fuel with
  | 0 => .halt (.fault (.statement .constructorLimit) .abort)
  | fuel + 1 =>
    let frameOf (members : List RowValues) : Evaluating Frame := do
      let row ← match core.extreme? with
        | none => pure (members.headD #[])
        | some call =>
          let argument := call.arguments.headD (.literal .null)
          let entries ← members.mapM fun row => do
            let inner := frame.push row
            let counts ← match call.filter with
              | some condition => fits world fuel inner condition false
              | none => pure true
            return (← if counts then some <$> value world fuel inner argument else pure none, row)
          let choice := entries.foldl (Choice.step (call.name = "max") argument.ownCollation) {}
          pure (choice.row.getD #[])
      return frame.pushStanding { row, totals := ← totals world fuel frame core.totals members }
    if core.group.isEmpty then
      Flow.ofExcept do
        let rows ← (if core.foremost then rows.take 1 else rows).toList
        return .single (← frameOf rows)
    else
      let terms := Rows.termsOf (core.group.zipIdx.map fun (value, index) =>
        { value, down := core.falling.getD index false })
      let keyed := rows.mapM fun row => do
        return (row, ← core.group.mapM (value world fuel (frame.push row)))
      let ordered := if core.gathered then keyed
        else Flow.ofExcept do
          return .ofList (Rows.sortBy terms (fun entry => entry.2) (← keyed.toList))
      let groups := ordered.runs fun a b => Rows.compareKeys terms a.2 b.2 = .eq
      groups.mapM fun group => frameOf (group.map fun entry => entry.1)
termination_by structural fuel

/-- The rows of one part of a query in an order, without the first of them and so many at most. -/
def coreFlow (world : World) (fuel : Nat) (frame : Frame) (core : Core)
    (sources : List (Source × Reading)) (order : List OrderTerm) (asking : Asking)
    (most : Option Nat) (skip : Nat) : RowFlow :=
  match fuel with
  | 0 => .halt (.fault (.statement .constructorLimit) .abort)
  | fuel + 1 =>
    let frames := coreFrames world fuel frame core sources
    let valuesIn (inner : Frame) : Evaluating RowValues := do
      return (← core.values.mapM (value world fuel inner)).toArray
    let keysIn (inner : Frame) : Evaluating (List Datum) :=
      order.mapM fun term => value world fuel inner term.value
    let terms := Rows.termsOf order
    let isDistinct := core.distinct && asking ≠ .nothing
    let collations := Core.collations [core]
    let limited {α : Type} (flow : Flow Stop α) : Flow Stop α := (flow.drop skip).takeAtMost most
    if asking = .presence then (limited frames).map fun _ => #[]
    else if order.isEmpty || core.ordered || asking = .nothing then
      if isDistinct then
        limited ((frames.mapM valuesIn).through (fun (seen : Rows.Seen) row =>
          let form := Rows.form collations row.toList
          .ok (if seen.contains form then (seen, none) else (seen.insert form, some row))) {})
      else (limited frames).mapM valuesIn
    else
      match most, asking = .passing && !isDistinct with
      | some most, true =>
        Flow.ofExcept do
          let count := most + skip
          let first ← frames.foldM (fun (first : List (RowValues × List Datum)) inner => do
            let keys ← keysIn inner
            let isLate := first.length = count &&
              first.getLast?.any fun last => Rows.compareKeys terms keys last.2 ≠ .lt
            if isLate then return first
            else
              let (before, behind) := first.span fun other =>
                Rows.compareKeys terms other.2 keys ≠ .gt
              return (before ++ (← valuesIn inner, keys) :: behind).take count) []
          return .ofList ((first.map fun entry => entry.1).drop skip)
      | _, _ =>
        Flow.ofExcept do
          let results ← (frames.mapM fun inner => do
            return (← valuesIn inner, ← keysIn inner)).toList
          let results := if isDistinct then
              Rows.distinct collations (fun result => result.1.toList) results
            else results
          let sorted := Rows.sortBy terms (fun result => result.2) results
          return limited (.ofList (sorted.map fun result => result.1))
termination_by structural fuel

/-- How many rows are asked for at most, and how many are left out before. Where one row is enough,
it only counts whether any are asked for. -/
def limits (world : World) (fuel : Nat) (frame : Frame) (limit offset : Option Expression)
    (isOne : Bool) : Evaluating (Option Nat × Nat) :=
  match fuel with
  | 0 => Evaluating.refuse (.statement .constructorLimit)
  | fuel + 1 => do
    let number (limit : Option Expression) : Evaluating (Option Int) := do
      match limit with
      | none => return none
      | some limit =>
        match ((← value world fuel frame limit).leanTo .numeric) with
        | .integer n => return some n
        | _ => Evaluating.refuse .wrongType
    let most ← match limit, isOne with
      | none, true => pure (some 1)
      | some limit, true =>
        let found := (← value world fuel frame limit).leanTo .numeric
        if found.isNull then Evaluating.refuse .wrongType
        else pure (some (if found = .integer 0 then 0 else 1))
      | limit, false => pure ((← number limit).bind fun n => if n < 0 then none else some n.toNat)
    return (most, ((← number offset).getD 0).toNat)
termination_by structural fuel

/-- The rows of a query in its order, as far as its limit goes. -/
def queryFlow (world : World) (fuel : Nat) (frame : Frame) (query : Query) (asking : Asking) :
    RowFlow :=
  match fuel with
  | 0 => .halt (.fault (.statement .constructorLimit) .abort)
  | fuel + 1 =>
    let isOne := asking = .single || asking = .presence
    if query.rest.isEmpty then
      Flow.ofExcept do
        let sources ← readings world fuel frame query.core.sources
        let (most, skip) ← limits world fuel frame query.limit query.offset isOne
        return if most = some 0 then .done
          else coreFlow world fuel frame query.core sources query.order asking most skip
    else
      Flow.ofExcept do
        let (most, skip) ← limits world fuel frame query.limit query.offset isOne
        let part (core : Core) : RowFlow :=
          Flow.ofExcept do
            let sources ← readings world fuel frame core.sources
            return coreFlow world fuel frame core sources [] .every none 0
        let isChain := query.order.isEmpty && query.rest.all fun entry => entry.1 = .unionAll
        let whole := if isChain then
            query.rest.foldl (fun rows entry => rows.append fun _ => part entry.2)
              (part query.core)
          else Flow.ofExcept do
            let cores := query.core :: query.rest.map fun entry => entry.2
            let collations := Core.collations cores
            let isOrdered := !query.order.isEmpty
            let rows ← query.rest.foldlM (fun rows (operator, next) => do
              return Rows.combine operator collations isOrdered rows (← (part next).toList))
              (← (part query.core).toList)
            let keyed ← rows.mapM fun row => do
              return (row, ← query.order.mapM fun term =>
                value world fuel (frame.push row) term.value)
            return .ofList ((Rows.sortBy (Rows.termsOf query.order) (fun entry => entry.2)
              keyed).map fun entry => entry.1)
        return if most = some 0 then .done else (whole.drop skip).takeAtMost most
termination_by structural fuel

end

/-- The steps that an evaluation may take one inside of the other, and those of a query over its own
rows one behind the other. -/
def depthLimit : Nat := 1000000000

def evaluate (world : World) (frame : Frame) (target : Expression) : Evaluating Datum :=
  world.value depthLimit frame target

def holds (world : World) (frame : Frame) (target : Expression) : Evaluating Bool :=
  world.fits depthLimit frame target false

/-- A rule is kept unless it is known not to be. -/
def keeps (world : World) (frame : Frame) (rule : Expression) : Evaluating Bool :=
  world.fits depthLimit frame rule true

/-- Compute the columns of a row that are made from others, those that are kept only if asked
for. One may be made from another one that comes later. -/
def generate (world : World) (table : Table) (kept : Bool) (row : RowValues) :
    Evaluating RowValues :=
  let made := table.columns.zipIdx.filterMap fun (column, place) =>
    match column.generated with
    | some (expression, isKept) => if isKept && !kept then none else some (place, column, expression)
    | none => none
  let timeless := { world with timeless := some "a generated column", fired := false }
  let once (row : RowValues) : Evaluating RowValues :=
    made.foldlM (fun row (place, column, expression) => do
      let found ← timeless.evaluate (Frame.push {} row) expression
      return row.setIfInBounds place (found.leanTo (table.leaning column))) row
  made.foldlM (fun row _ => once row) row

/-- Compute the columns of a row that are made from others and not kept. -/
def complete (world : World) (table : Table) (row : RowValues) : Evaluating RowValues :=
  world.generate table false row

/-- All rows of a table, in the order of its tree. -/
def tableRows (world : World) (table : Table) : Evaluating (List RowValues) := do
  (← (world.keptRows table).toList).mapM (world.complete table)

/-- The rows of a query, as they are asked for. -/
def rows (world : World) (frame : Frame) (query : Query) (asking : Asking) :
    Evaluating (List RowValues) :=
  (world.queryFlow depthLimit frame query asking).toList

end World

end SignalGraph.Database
