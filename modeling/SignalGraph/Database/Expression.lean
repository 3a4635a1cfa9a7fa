import SignalGraph.Database.Fault
import SignalGraph.Database.Function
import SignalGraph.Database.Literal

/-! What can be told of an expression by its form: what is inside of it, what its value leans
towards, how it is compared, and whether it is the same as another one.
-/

set_option autoImplicit false

namespace SignalGraph.Database

namespace FrameBound

def amount? : FrameBound → Option Expression
  | before amount | after amount => some amount
  | unbounded | current => none

end FrameBound

namespace Window

def amounts (window : Window) : List Expression :=
  match window.frame with
  | some frame => frame.start.amount?.toList ++ frame.stop.amount?.toList
  | none => []

def parts (window : Window) : List Expression :=
  window.partition ++ window.order.map OrderTerm.value ++ window.amounts

/-- The window with what the definition of its base says. -/
def settle (definitions : List (String × Window)) (window : Window) :
    Except StatementFault Window :=
  match window.base with
  | none => .ok window
  | some name =>
    match definitions.reverse.find? fun entry => entry.1.toLower = name.toLower with
    | none => .error (.missingWindow name)
    | some (_, base) =>
      if window.plain then .ok base
      else if !window.partition.isEmpty then .error (.overriddenWindow "PARTITION clause" name)
      else if !base.order.isEmpty && !window.order.isEmpty then
        .error (.overriddenWindow "ORDER BY clause" name)
      else if base.frame.isSome then .error (.overriddenWindow "frame specification" name)
      else
        let order := if base.order.isEmpty then window.order else base.order
        .ok { window with base := none, partition := base.partition, order }

/-- The first of some windows that can take over one another, each what those before it say. -/
def settleAll (definitions : List (String × Window)) :
    Except StatementFault (List (String × Window)) :=
  definitions.foldlM (fun done (name, window) => do
    return done ++ [(name, ← window.settle done)]) []

end Window

/-- The values that a part of a query gives. -/
def Core.values (core : Core) : List Expression :=
  core.columns.filterMap fun column =>
    match column with
    | .one value _ _ => some value
    | _ => none

/-- The expressions right inside of a query, and the queries inside as if they were expressions. -/
def Core.parts (core : Core) : List Expression :=
  core.values ++
    (core.sources.flatMap fun source =>
      source.condition.toList ++
        match source.content with
        | .table _ | .current _ => []
        | .query query => [.scalar query]
        | .call _ arguments => arguments
        | .joined sources => [.scalar { core := { sources } }]
        | .recursion recursion => .scalar recursion.start ::
            (recursion.repeated.map fun core => .scalar { core })) ++
    core.filter.toList ++ core.group ++ core.having.toList ++
    core.windows.flatMap fun call =>
      call.arguments ++ call.filter.toList ++ ((call.window.map Window.parts).getD [])

def Query.parts (query : Query) : List Expression :=
  query.core.parts ++ query.rest.flatMap (fun entry => entry.2.parts) ++
    query.order.map OrderTerm.value ++ query.limit.toList ++ query.offset.toList

namespace Expression

/-- The expressions right inside of one. -/
def parts : Expression → List Expression
  | unary _ operand | counts operand _ | cast operand _ | collate operand _
  | amongRows operand _ | raise _ operand | component _ operand | standing operand _ _
  | kept operand _ _ => [operand]
  | binary _ left right => [left, right]
  | between operand low high => [operand, low, high]
  | among operand choices => operand :: choices
  | choose base arms otherwise =>
    base.toList ++ arms.flatMap (fun arm => [arm.1, arm.2]) ++ [otherwise]
  | .call invocation | .total _ invocation =>
    invocation.arguments ++ invocation.order.map OrderTerm.value ++ invocation.filter.toList ++
      ((invocation.window.map Window.parts).getD [])
  | vector items | merged items => items
  | marked value mark => [value, mark]
  | .literal _ | .numeral _ | .parameter _ | .name _ _ | .slot _ _ _ _ | .scalar _
  | .isThere _ => []

/-- The expressions right inside of one, those of queries too. -/
def deepParts : Expression → List Expression
  | .scalar query | .isThere query => query.parts
  | .amongRows operand query => operand :: query.parts
  | other => other.parts

/-- The first answer that a question about the expression, or one inside of it, has. -/
def findPart? {α : Type} (question : Expression → Option α) : Nat → Expression → Option α
  | 0, _ => none
  | fuel + 1, expression =>
    match question expression with
    | some answer => some answer
    | none => expression.parts.findSome? (findPart? question fuel)

/-- The answers that a question has anywhere inside of an expression. -/
def gather {α : Type} (question : Expression → Option α) : Nat → Expression → List α
  | 0, _ => []
  | fuel + 1, expression =>
    (question expression).toList ++ expression.deepParts.flatMap (gather question fuel)

def depthLimit : Nat := 4000

/-- The levels of the queries that an expression takes columns from. -/
def levels (expression : Expression) : List Nat :=
  expression.gather (fun
    | .slot level _ _ _ => some level
    | _ => none) depthLimit

/-- The values of the last part of a query. -/
def lastValues (query : Query) : List Expression :=
  ((query.rest.getLast?.map fun entry => entry.2).getD query.core).values

/-- The conditions that all have to hold for one to hold. -/
def conjuncts : Expression → List Expression
  | binary .and left right => conjuncts left ++ conjuncts right
  | condition => [condition]

/-- A condition that holds if some others all do. -/
def conjunction : List Expression → Option Expression
  | [] => none
  | first :: rest => some (rest.foldl (binary .and) first)

/-- The expression that a collation is written behind. -/
def withoutCollation : Expression → Expression
  | collate operand _ => operand.withoutCollation
  | expression => expression

/-- Put another expression before the collations of this one. -/
def rewrap (expression inner : Expression) : Expression :=
  match expression with
  | collate operand collation => .collate (operand.rewrap inner) collation
  | _ => inner

/-- What the value of a column or a conversion leans towards; other values do not lean. -/
def leaningIn? : Nat → Expression → Option Leaning
  | _, slot _ _ leaning _ => leaning
  | _, cast _ type => some (.ofType type)
  | fuel + 1, collate operand _ => leaningIn? fuel operand
  | fuel + 1, marked value _ => leaningIn? fuel value
  | _, standing _ leaning _ => leaning
  | _, kept _ leaning _ => some leaning
  | fuel + 1, scalar query => (lastValues query).head?.bind (leaningIn? fuel)
  | fuel + 1, vector items | fuel + 1, merged items => items.head?.bind (leaningIn? fuel)
  | fuel + 1, component place (scalar query) => ((lastValues query)[place]?).bind (leaningIn? fuel)
  | _, _ => none

def leaning? (expression : Expression) : Option Leaning := leaningIn? depthLimit expression

/-- The collation that is written in an expression, as far as no columns stand around it. -/
def writtenIn? : Nat → Expression → Option String
  | 0, _ => none
  | _ + 1, collate _ collation => some collation
  | _ + 1, standing _ _ _ => none
  | fuel + 1, expression => expression.parts.findSome? (writtenIn? fuel)

def writtenCollation? (expression : Expression) : Option String := writtenIn? depthLimit expression

/-- The collation of a column. -/
def columnCollation? : Expression → Option String
  | slot _ _ _ collation | standing _ _ collation => collation
  | cast operand _ | unary .plus operand | marked operand _ => operand.columnCollation?
  | merged (first :: _) | vector (first :: _) => first.columnCollation?
  | _ => none

/-- The collation that an expression has by itself. -/
def collation? (expression : Expression) : Option String :=
  expression.columnCollation? <|> expression.writtenCollation?

/-- How the values of two expressions are compared: as it is written, or else as a column is. -/
def collationName? (left right : Expression) : Option String :=
  left.writtenCollation? <|> right.writtenCollation? <|> left.columnCollation? <|>
    right.columnCollation?

def collationOf (left right : Expression) : Collation :=
  ((collationName? left right).bind Collation.ofName?).getD .binary

def ownCollation (expression : Expression) : Collation := collationOf expression (literal .null)

/-- How many values an expression has. -/
def width : Expression → Nat
  | vector items => items.length
  | scalar query => query.core.columns.length
  | _ => 1

/-- A query stands in the expression. -/
def hasQuery (expression : Expression) : Bool :=
  (expression.findPart? (fun
    | .scalar _ | .isThere _ | .amongRows _ _ => some ()
    | _ => none) depthLimit).isSome

/-- The expression has the same value wherever it stands. The row that a trigger fires for, at the
outermost level, does not count as one of a query. -/
def isConstant (inTrigger : Bool) (expression : Expression) : Bool :=
  (expression.findPart? (fun
    | .slot level _ _ _ => if inTrigger && level = 0 then none else some ()
    | .call invocation => if Function.isVarying invocation.name then some () else none
    | .scalar _ | .isThere _ | .amongRows _ _ | .total _ _ | .raise _ _ => some ()
    | _ => none) depthLimit).isNone

/-- The expression is a number that always counts as true, or as false. -/
def isAlways (asTrue : Bool) : Expression → Bool
  | literal (.integer n) => (n ≠ 0) = asTrue && n.natAbs < power 2 31
  | _ => false

/-- What is left of a conjunction or an alternative if one side of it settles it or says nothing. -/
def simplified : Expression → Expression
  | binary operator left right =>
    let left' := left.simplified
    let right' := right.simplified
    let pick (first : Bool) : Expression :=
      if decide (operator = .and) = first then right' else left'
    if operator ≠ .and ∧ operator ≠ .or then binary operator left right
    else if left'.isAlways true || right'.isAlways false then pick true
    else if right'.isAlways true || left'.isAlways false then pick false
    else binary operator left right
  | expression => expression

/-- The right side of an operator is looked at before the left one: only that needs a query. -/
def isRightFirst (left right : Expression) : Bool := !right.hasQuery && left.hasQuery

/-- The expressions that stand for each of the values that stand together. -/
def components (expression : Expression) : List Expression :=
  match expression with
  | vector items => items
  | expression => (List.range expression.width).map fun place => component place expression

/-- The classes that a value can be of. -/
structure Classes where
  number : Bool := false
  text : Bool := false
  blob : Bool := false

namespace Classes

def union (a b : Classes) : Classes := ⟨a.number || b.number, a.text || b.text, a.blob || b.blob⟩

def all : Classes := ⟨true, true, true⟩

end Classes

/-- The classes that the value of an expression can be of, as far as its form tells. -/
def classes : Nat → Expression → Classes
  | fuel + 1, collate operand _ => classes fuel operand
  | fuel + 1, unary .plus operand => classes fuel operand
  | _, literal .null => {}
  | _, literal (.text _) => { text := true }
  | _, literal (.blob _) => { blob := true }
  | _, binary .concatenate _ _ => { text := true, blob := true }
  | _, parameter _ | _, call _ | _, total _ _ => .all
  | fuel + 1, choose _ arms otherwise =>
    arms.foldl (fun all arm => all.union (classes fuel arm.2)) (classes fuel otherwise)
  | _, expression =>
    match expression with
    | slot _ _ _ _ | scalar _ | cast _ _ | component _ _ | vector _ | merged _ | marked _ _
    | standing _ _ _ | kept _ _ _ =>
      match expression.leaning? with
      | some .text => { text := true, blob := true }
      | some .blob | none => .all
      | some _ => { number := true, blob := true }
    | _ => { number := true }

/-- The leaning of a column that several queries give values for. -/
def commonLeaning (values : List Expression) : Option Leaning :=
  let isPlain (leaning : Option Leaning) : Bool := leaning.isNone
  let rest := values.dropWhile fun value => isPlain value.leaning?
  let leaning := rest.head?.bind leaning?
  let skipped := values.take (values.length - rest.length)
  let others := (skipped ++ rest.drop 1).foldl
    (fun all value => all.union (classes depthLimit value)) ({} : Classes)
  match leaning with
  | some .text => if others.number then some .blob else some .text
  | some .blob => some .blob
  | some other => if others.text then some .blob else some other
  | none => none

def unaryWord : Unary → String
  | .negate => "-"
  | .plus => "+"
  | .complement => "~"
  | .not => "not"
  | .isNull => "isnull"
  | .notNull => "notnull"

def binaryWord : Binary → String
  | .or => "or"
  | .and => "and"
  | .equal => "="
  | .unequal => "<>"
  | .less => "<"
  | .atMost => "<="
  | .more => ">"
  | .atLeast => ">="
  | .is => "is"
  | .isNot => "isnot"
  | .bitAnd => "&"
  | .bitOr => "|"
  | .shiftLeft => "<<"
  | .shiftRight => ">>"
  | .add => "+"
  | .subtract => "-"
  | .multiply => "*"
  | .divide => "/"
  | .remainder => "%"
  | .concatenate => "||"

/-- What an expression is without its parts; queries are not told. -/
def head? : Expression → Option (List Datum)
  | literal value => some [.text "literal", value]
  | numeral written => some [.text "numeral", .text written]
  | parameter number => some [.text "parameter", .integer number]
  | name path quoted => some (.text "name" :: .ofBool quoted :: path.map Datum.text)
  | slot level place _ _ => some [.text "slot", .integer level, .integer place]
  | unary operator _ => some [.text "unary", .text (unaryWord operator)]
  | binary operator _ _ => some [.text "binary", .text (binaryWord operator)]
  | counts _ asTrue => some [.text "counts", .ofBool asTrue]
  | between _ _ _ => some [.text "between"]
  | among _ _ => some [.text "among"]
  | choose base arms _ => some [.text "choose", .ofBool base.isSome, .integer arms.length]
  | cast _ type => some [.text "cast", .text type]
  | collate _ collation => some [.text "collate", .text collation.toLower]
  | .call invocation | .total _ invocation =>
    some [.text invocation.name, .ofBool invocation.star, .ofBool invocation.distinct,
      .integer invocation.arguments.length, .integer invocation.order.length,
      .ofBool invocation.filter.isSome, .ofBool invocation.window.isSome]
  | component place _ => some [.text "component", .integer place]
  | vector _ => some [.text "vector"]
  | merged columns => some [.text "merged", .integer columns.length]
  | marked _ _ => some [.text "marked"]
  | standing _ _ collation =>
    some [.text "standing", (collation.map fun name => Datum.text name.toLower).getD .null]
  | kept _ _ isMade => some [.text "kept", .ofBool isMade]
  | amongRows _ _ | scalar _ | isThere _ | raise _ _ => none

/-- Two expressions are the same, part by part. -/
def same : Nat → Expression → Expression → Bool
  | 0, _, _ => false
  | fuel + 1, a, b =>
    a.head?.isSome && a.head? == b.head? && a.parts.length = b.parts.length &&
      (a.parts.zip b.parts).all fun (x, y) => same fuel x y

def isSame (a b : Expression) : Bool := same depthLimit a b

/-- What keeps an expression outside of triggers from having a value: a function that is not
known, a numeral that no word can hold, or a refusal. -/
def strangeness? (expression : Expression) : Option StatementFault :=
  expression.findPart? (fun
    | .call invocation =>
      if Function.isKnown invocation.name then none else some (.unknownFunction invocation.name)
    | .numeral written =>
      match Literal.numeralValue written with
      | .error fault => some fault
      | .ok _ => none
    | .raise _ _ => some .raiseOutside
    | _ => none) depthLimit

end Expression

namespace Window

def sameTerms (a b : List OrderTerm) : Bool :=
  a.length = b.length && (a.zip b).all fun (x, y) =>
    x.value.isSame y.value && x.down = y.down && x.nullsFirst = y.nullsFirst

def sameBound : FrameBound → FrameBound → Bool
  | .unbounded, .unbounded | .current, .current => true
  | .before a, .before b | .after a, .after b => a.isSame b
  | _, _ => false

def sameFrame : Option WindowFrame → Option WindowFrame → Bool
  | some a, some b =>
    a.unit = b.unit && sameBound a.start b.start && sameBound a.stop b.stop &&
      a.exclusion = b.exclusion
  | none, none => true
  | _, _ => false

/-- Functions over the two windows see the same rows in the same order. -/
def isSame (a b : Window) : Bool :=
  a.partition.length = b.partition.length &&
    ((a.partition.zip b.partition).all fun (x, y) => x.isSame y) &&
    sameTerms a.order b.order && sameFrame a.frame b.frame

end Window

end SignalGraph.Database
