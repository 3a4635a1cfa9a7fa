import SignalGraph.Database.Plan.Draft

/-! Queries that are read by another one made part of it, where the rows stay the same.

A condition that no row without a partner can meet turns an outer join into a plainer one. A query
that only picks and joins rows is put in the place of its name: its sources become sources, its
conditions conditions, and its values stand for its columns.
-/

set_option autoImplicit false

namespace SignalGraph.Database.Plan

/-- What a plan is made for. -/
structure Setting where
  catalog : Catalog
  /-- The outermost row is the one that a trigger fires for. -/
  inTrigger : Bool := false
  /-- How often each named query is read, by its number. -/
  uses : List (Nat × Nat) := []

/-- How often the query that a source stands for is read by its name. -/
def Setting.usesOf (setting : Setting) (source : Source) : Nat :=
  (source.named.bind fun named => setting.uses.lookup named.1).getD 0

/-- What is said about the rows of a named query. -/
def keepingOf (source : Source) : Option Keeping := source.named.map fun named => named.2

namespace Implied

/-- A value is null if its source has no row: the places are those of the source. Sources that are
functions may take null for a value like others. -/
def isNull (level : Nat) (isOwn isLoose : Nat → Bool) : Nat → Expression → Bool
  | 0, _ => false
  | fuel + 1, expression =>
    let of := isNull level isOwn isLoose fuel
    let isLooseColumn : Expression → Bool
      | .slot own place _ _ => own = level && isLoose place
      | _ => false
    match expression with
    | .slot own place _ _ => own = level && isOwn place
    | .binary operator left right =>
      match operator with
      | .is | .isNot => false
      | .and | .or => of left && of right
      | operator =>
        if operator.isComparison && (isLooseColumn left || isLooseColumn right) then false
        else of left || of right
    | .unary operator operand => operator ≠ .isNull && operator ≠ .notNull && of operand
    | .among operand choices => !choices.isEmpty && of operand
    | .between operand low high => of operand || of low && of high
    | .collate operand _ | .cast operand _ | .standing operand _ _ | .marked operand _ => of operand
    | _ => false

/-- A condition that holds shows that its source has a row. -/
def hasRow (level : Nat) (isOwn isLoose : Nat → Bool) (expression : Expression) : Bool :=
  match expression.withoutCollation with
  | .unary .notNull operand => isNull level isOwn isLoose Expression.depthLimit operand
  | expression => isNull level isOwn isLoose Expression.depthLimit expression

end Implied

namespace Draft

/-- The place belongs to a source. -/
def owns (source : Source) (place : Nat) : Bool :=
  source.place ≤ place && place < source.place + source.width

/-- The place belongs to a source that is a function. -/
def isOfCall (draft : Draft) (place : Nat) : Bool :=
  draft.core.sources.any fun source => owns source place &&
    match source.content with
    | .call _ _ => true
    | _ => false

/-- The conditions show that a source has a row. -/
def hasRow (level : Nat) (draft : Draft) (source : Source) (isLeft : Bool) : Bool :=
  draft.conditions.any fun condition =>
    !condition.isOuter && !(isLeft && condition.join.isSome) &&
      Implied.hasRow level (owns source) draft.isOfCall condition.value

/-- The conditions of a join are those of a plain one. -/
def plainJoin (place : Nat) (condition : Condition) : Condition :=
  if condition.isOuter && condition.join = some place then { condition with isOuter := false }
  else condition

/-- A source that has to have a row is joined plainly, and what comes before it stands for all rows
of sources behind it. -/
def strengthen (level index : Nat) (draft : Draft) : Draft :=
  let sources := draft.core.sources
  match sources[index]? with
  | none => draft
  | some source =>
    let isLeft := isLeftOfKept sources index
    if (keepsBefore source || isLeft) && draft.hasRow level source isLeft then
      let own (source : Source) : JoinKind :=
        match source.join with
        | .left => .inner
        | .full => .right
        | join => join
      let later (source : Source) : JoinKind :=
        match source.join with
        | .full => .left
        | .right => .inner
        | join => join
      let changed := sources.zipIdx.map fun (other, place) =>
        if place = index then { other with join := own other }
        else if isLeft && index < place then { other with join := later other }
        else other
      let plain := (sources.zip changed).filter fun (before, after) =>
        before.join ≠ .inner && after.join = .inner
      let conditions := plain.foldl (fun conditions (before, _) =>
        conditions.map (plainJoin before.place)) draft.conditions
      { core := { draft.core with sources := changed }, conditions }
    else draft

end Draft

/-- The values of a part of a query need functions or queries. -/
def isComplex (core : Core) : Bool :=
  core.values.any fun value => (value.findPart? (fun
    | .call _ | .total _ _ | .scalar _ | .isThere _ | .amongRows _ _ => some ()
    | _ => none) Expression.depthLimit).isSome

/-- The place of the result that a term of an order is. -/
def resultPlace? (core : Core) (term : OrderTerm) : Option Nat :=
  core.values.findIdx? fun value =>
    value.isSame term.value || value.isSame term.value.withoutCollation

/-- The values of several parts lean alike. -/
def leanAlike (drafts : List Draft) : Bool :=
  match drafts with
  | [] => true
  | first :: rest =>
    let leanings (draft : Draft) : List (Option Leaning) :=
      draft.core.values.map Expression.leaning?
    rest.all fun other => leanings other = leanings first

/-- The order of the rows that functions over windows see, or else of the rows themselves. -/
def innerOrder (whole : Whole) : List OrderTerm :=
  match whole.first.core.windows.head?.bind Call.window with
  | some window => window.partition.map (fun value => { value }) ++ window.order
  | none => whole.order

/-- A query that another one reads may become part of it. -/
def mayAbsorb (whole : Whole) (index : Nat) (source : Source) (inner : Whole)
    (inCompound isRepeated : Bool) : Bool :=
  let core := whole.first.core
  let isWindowed := !core.windows.isEmpty
  let limit := if isWindowed then none else whole.limit
  let order := innerOrder whole
  let isDistinct := !isWindowed && core.distinct
  let isOuter := isOuterJoin source || isLeftOfKept core.sources index
  let own := inner.first.core
  let startsLeft (core : Core) : Bool := isLeftOfKept core.sources 0
  let isCall (source : Source) : Bool :=
    match source.content with
    | .call _ _ => true
    | _ => false
  let isPlain := own.windows.isEmpty && !own.distinct && !own.grouped && !own.sources.isEmpty &&
    (inner.limit.isNone || limit.isNone && !inCompound && core.sources.length = 1 &&
      !core.grouped && whole.first.conditions.isEmpty && !isDistinct && !isWindowed) &&
    inner.offset.isNone &&
    (inner.order.isEmpty || order.isEmpty && !core.grouped && !isWindowed)
  let isJoinable := !isOuter || own.sources.length = 1 && !own.sources.any isCall &&
    !isDistinct && !keepsOwn source
  let isChain := inner.rest.isEmpty || inner.order.isEmpty && !core.grouped && !isDistinct &&
    !isOuter && !isWindowed && !isRepeated &&
    inner.rest.all (fun (operator, part) => operator = .unionAll && !part.core.distinct &&
      !part.core.grouped && !part.core.sources.isEmpty && part.core.windows.isEmpty &&
      !(0 < index && startsLeft part.core)) &&
    order.all (fun term => (resultPlace? core term).isSome) && leanAlike inner.drafts
  isPlain && isJoinable && isChain && !(0 < index && startsLeft own)

/-- A value that is null where a source has no row. -/
def whilePresent (level presence : Nat) (value : Expression) : Expression :=
  .choose none [(.unary .isNull (.slot level presence none none), .literal .null)] value

/-- Make one part of a query that another one reads part of that one. -/
def absorbPart (level index : Nat) (draft : Draft) (order : List OrderTerm) (source : Source)
    (inner : Draft) : Draft × List OrderTerm :=
  let core := draft.core
  let start := core.width
  let isOuter := isOuterJoin source || isLeftOfKept core.sources index
  let growth := inner.core.width + if isOuter then 1 else 0
  let presence := start + inner.core.width
  let move (expression : Expression) : Expression :=
    expression.replacePlaces level fun place leaning collation =>
      some (.slot level (place + start) leaning collation)
  let inner := inner.map move
  let newPlace := start + ((inner.core.sources.head?.map Source.place).getD 0)
  let isFirst : Expression → Bool
    | .slot own place _ _ => own = level && start ≤ place && isOuter
    | _ => false
  let values := inner.core.values
  let valueFor (place : Nat) (leaning : Option Leaning) (collation : Option String) : Expression :=
    match values[place]? with
    | none => .literal .null
    | some (.slot own at_ ownLeaning ownCollation) =>
      if ownCollation == collation || ownLeaning.isNone && ownCollation.isNone then
        .slot own at_ leaning collation
      else .standing (.slot own at_ ownLeaning ownCollation) ownLeaning collation
    | some value =>
      let made := if isOuter && !isFirst value then whilePresent level presence value else value
      .standing made value.leaning? collation
  let change (expression : Expression) : Expression :=
    expression.replacePlaces level fun place leaning collation =>
      if Draft.owns source place then some (valueFor (place - source.place) leaning collation)
      else if start ≤ place then some (.slot level (place + growth) leaning collation)
      else none
  let outer := draft.map change
  let conditions := outer.conditions.map fun condition =>
    if condition.join = some source.place then { condition with join := some newPlace }
    else condition
  let own := inner.conditions.map fun condition =>
    if isOuter then { condition with join := some newPlace, isOuter := true } else condition
  let own := own.map fun condition =>
    if isOuter then condition
    else { condition with join := condition.join.map fun place => place + start }
  let sources := inner.core.sources.zipIdx.map fun (other, position) =>
    let other := { other with place := other.place + start
                              presence := other.presence.map fun place => place + start }
    if position = 0 then
      { other with join := source.join, crossed := source.crossed
                   presence := if isOuter then some presence else other.presence }
    else other
  let before := outer.core.sources.take index
  let behind := outer.core.sources.drop (index + 1)
  let all := (before ++ sources ++ behind).zipIdx.map fun (other, rank) => { other with rank }
  ({ core := { outer.core with sources := all, width := start + growth }
     conditions := own ++ conditions },
   order.map fun term => { term with value := change term.value })

/-- Make a query that another one reads part of that one. -/
def absorb (level index : Nat) (whole : Whole) (source : Source) (inner : Whole) : Whole :=
  let made (order : List OrderTerm) (part : Draft) : Draft × List OrderTerm :=
    absorbPart level index whole.first order source part
  let (first, order) := made whole.order inner.first
  let move (expression : Expression) : Expression :=
    expression.replacePlaces level fun place leaning collation =>
      some (.slot level (place + whole.first.core.width) leaning collation)
  let limit := if inner.limit.isSome then inner.limit else whole.limit
  if inner.rest.isEmpty then
    let order := if inner.order.isEmpty then order
      else inner.order.map fun term => { term with value := move term.value }
    { whole with first, order, limit }
  else
    let rest := inner.rest.map fun (operator, part) => (operator, (made [] part).1)
    let cores := first.core :: rest.map fun entry => entry.2.core
    let order := whole.order.map fun term =>
      let place := (resultPlace? whole.first.core term).getD 0
      let collation? := cores.findSome? fun core => (core.values[place]?).bind Expression.collation?
      { term with value := term.value.rewrap (.slot level place none collation?) }
    { first, rest, order, limit, offset := whole.offset }

/-- The order of the rows that a part of a query reads shows in what functions make of them. -/
def needsOrder (level : Nat) (core : Core) : Bool :=
  !core.windows.isEmpty || (core.values ++ core.having.toList).any fun value =>
    !(value.gather (fun
      | .total own call => if own = level && Total.isOrdered call.name then some () else none
      | _ => none) Expression.depthLimit).isEmpty

/-- Make the queries that a query reads part of it as far as that is possible, from a source on. An
order of rows that is of no use is left out. -/
def merge (level : Nat) (isComplex inCompound isRepeated : Bool) : Nat → Nat → Whole → Whole
  | 0, _, whole => whole
  | fuel + 1, index, whole =>
    if !whole.rest.isEmpty then whole
    else
      let whole := { whole with first := whole.first.strengthen level index }
      let sources := whole.first.core.sources
      match sources[index]? with
      | none => whole
      | some source =>
        let next (whole : Whole) : Whole :=
          merge level isComplex inCompound isRepeated fuel (index + 1) whole
        match source.content with
        | .query query =>
          if keepingOf source = some .kept || query.core.grouped then next whole
          else
            let isUseless := !query.order.isEmpty && query.limit.isNone &&
              (!(innerOrder whole).isEmpty || 1 < sources.length) &&
              !needsOrder level whole.first.core
            let query := if isUseless then { query with order := [] } else query
            let changed := { source with content := .query query }
            let core := { whole.first.core with sources := sources.set index changed }
            let whole := { whole with first := { whole.first with core } }
            let isNextApart := (sources[1]?).any fun second => isOuterJoin second || second.crossed
            if !query.order.isEmpty && index = 0 && isComplex &&
                (sources.length = 1 || isNextApart) then next whole
            else
              let inner := Whole.ofQuery level query
              if mayAbsorb whole index source inner inCompound isRepeated then
                merge level isComplex inCompound isRepeated fuel 0
                  (absorb level index whole changed inner)
              else next whole
        | _ => next whole

end SignalGraph.Database.Plan
