import SignalGraph.Database.Expression
import SignalGraph.Database.Grammar.Basic

/-! Reading expressions and queries. Operators bind by levels; those of one level from the left. -/

set_option autoImplicit false

namespace SignalGraph.Database.Reader

/-- The levels of operators, the loosest first. -/
def orLevel : Nat := 1
def andLevel : Nat := 2
def notLevel : Nat := 3
def equalLevel : Nat := 4
def lessLevel : Nat := 5
def bitLevel : Nat := 7
def addLevel : Nat := 8
def multiplyLevel : Nat := 9
def joinLevel : Nat := 10
def collateLevel : Nat := 11
def signLevel : Nat := 12

/-- Operators that are signs, with their levels. -/
def signOperators : List (String × Nat × (Expression → Expression → Expression)) :=
  let access (name : String) (left right : Expression) : Expression :=
    .call { name, arguments := [left, right] }
  [("=", equalLevel, .binary .equal), ("==", equalLevel, .binary .equal),
   ("<>", equalLevel, .binary .unequal), ("!=", equalLevel, .binary .unequal),
   ("<", lessLevel, .binary .less), ("<=", lessLevel, .binary .atMost),
   (">", lessLevel, .binary .more), (">=", lessLevel, .binary .atLeast),
   ("&", bitLevel, .binary .bitAnd), ("|", bitLevel, .binary .bitOr),
   ("<<", bitLevel, .binary .shiftLeft), (">>", bitLevel, .binary .shiftRight),
   ("+", addLevel, .binary .add), ("-", addLevel, .binary .subtract),
   ("*", multiplyLevel, .binary .multiply), ("/", multiplyLevel, .binary .divide),
   ("%", multiplyLevel, .binary .remainder), ("||", joinLevel, .binary .concatenate),
   ("->", joinLevel, access "->"), ("->>", joinLevel, access "->>")]

def negated (negative : Bool) (value : Expression) : Expression :=
  if negative then .unary .not value else value

/-- The values of one of the choices for several values. -/
def rowOf (width : Nat) (item : Expression) : Except StatementFault (List Expression) :=
  let row := match item with
    | .vector items => items
    | item => [item]
  if row.length = width then .ok row else .error (.elementWidth row.length width)

/-- The value is told by numerals, texts and operators alone. -/
def isConstant (value : Expression) : Bool :=
  (value.findPart? (fun
    | .name [name] false =>
      if name.toLower = "true" || name.toLower = "false" then none else some ()
    | .name _ _ | .slot _ _ _ _ | .call _ | .total _ _ | .scalar _ | .component _ _ | .isThere _
    | .amongRows _ _ | .raise _ _ => some ()
    | _ => none) Expression.depthLimit).isNone

/-- A query for rows that are told. -/
def queryOfRows (rows : List (List Expression)) : Query :=
  let cores : List Core := rows.map fun row => { columns := row.map fun value => .one value none "" }
  { core := cores.headD {}, rest := (cores.drop 1).map fun core => (.unionAll, core) }

def isQueryStart (token : Token) : Bool :=
  token.isKeyword "SELECT" || token.isKeyword "VALUES" || token.isKeyword "WITH"

/-- What follows a function speaks of a window. -/
def isOver : Reader Bool := do
  return (← isNext (·.isKeyword "OVER")) &&
    ((← isSecond (·.isSign "(")) || (← isSecond Token.isName))

/-- A word that the definition of a window goes on with. -/
def isWindowWord (token : Token) : Bool :=
  ["PARTITION", "ORDER", "RANGE", "ROWS", "GROUPS"].any fun word => token.isKeyword word

/-- Whether the rows of a frame can lie between these ends. -/
def fits : FrameBound → FrameBound → Bool
  | .current, .before _ | .after _, .before _ | .after _, .current => false
  | _, _ => true

/-- What joins two queries, if it is next. -/
def compound? : Reader (Option Compound) := do
  if ← keyword? "UNION" then
    if ← keyword? "ALL" then return some .unionAll else return some .union
  else if ← keyword? "EXCEPT" then return some .except
  else if ← keyword? "INTERSECT" then return some .intersect
  else return none

/-- A clause that names windows is next. -/
def isWindowClause : Reader Bool := do
  match (← get).tokens with
  | word :: own :: follows :: _ =>
    return word.isKeyword "WINDOW" && own.isName && follows.isKeyword "AS"
  | _ => return false

/-- The words between two tables that are joined, if there are any. -/
def joinWords? : Reader (Option (List String)) := do
  if ← keyword? "JOIN" then return some []
  else
    match ← when? Token.isJoinWord with
    | none => return none
    | some first =>
      let second ← when? Token.isName
      let third ← if second.isSome then when? Token.isName else pure none
      keyword "JOIN"
      return some (([first] ++ second.toList ++ third.toList).map Token.text)

/-- The join that some words mean. -/
def joinKind (written : List String) : Reader JoinKind := do
  let words := written.map String.toUpper
  let left := words.contains "LEFT"
  let right := words.contains "RIGHT"
  let full := words.contains "FULL"
  let outside := left || right || full
  if words.any (fun word => word ∉ Token.joinWords) || (words.contains "OUTER" && !outside) ||
      (outside && (words.contains "INNER" || words.contains "CROSS")) then
    throw (.domain ("unknown join type: " ++ String.intercalate " " written))
  if full || (left && right) then return .full
  else if left then return .left
  else if right then return .right
  else return .inner

/-- A name and the names that follow it behind points, up to three. The first of three is the name
of the database. -/
def path (first : String) (read : List String) (quoted : Bool) : Reader Expression := do
  if ← sign? "." then
    let second ← need Token.isName
    if ← sign? "." then
      let third ← need Token.isName
      return .name [first, second.name, third.name] (third.text.toList.head? = some '"')
    else return .name [first, second.name] (second.text.toList.head? = some '"')
  else return .name read quoted

def signedNumber : Reader Unit := do
  let _ ← when? fun token => token.isSign "+" || token.isSign "-"
  let _ ← need fun token => token.kind = .integer || token.kind = .real

/-- The words of a type, and the numbers in brackets after it. -/
def typeName : Reader String := do
  let start ← nextStart
  let words ← many (when? Token.isPlainName)
  match words with
  | [] => return ""
  | first :: _ =>
    if ← sign? "(" then
      signedNumber
      if ← sign? "," then signedNumber
      sign ")"
    if first.kind = .word then written start (← get).place else return first.name

/-- The greater first, if it is written so. -/
def direction : Reader Bool := do
  if ← keyword? "ASC" then return false else keyword? "DESC"

/-- What is said about the index to use. -/
def indexHint : Reader IndexHint := do
  if ← keyword? "NOT" then
    keyword "INDEXED"
    return .without
  else if ← keyword? "INDEXED" then
    keyword "BY"
    return .named (← name)
  else return .free

/-- The most arguments that a function can be written with. -/
def mostArguments : Nat := 1000

def mostSources : Nat := 200

def mostParts : Nat := 500

/-- Refuse lists that are longer than they may be. -/
def checkCount (count most : Nat) (message : String) : Reader Unit :=
  if most < count then throw (.domain message) else return

/-- The name of a query, which no other one of its group has. -/
def checkNamed (named : List NamedQuery) : Except StatementFault Unit :=
  let names := named.map fun entry => entry.name.toLower
  let twice := named.zipIdx.find? fun entry => (names.take entry.2).contains entry.1.name.toLower
  match twice with
  | some (entry, _) => .error (.domain ("duplicate WITH table name: " ++ entry.name))
  | none => .ok ()

/-- What is false, but no number that is written. -/
def never : Expression := .counts (.literal (.integer 0)) true

/-- An expression that is written as false. -/
def isNever : Expression → Bool
  | .literal (.integer 0) | .counts (.literal (.integer 0)) true => true
  | _ => false

/-- A conjunction. Where one side is false it is not looked at what the other one is. -/
def both (left right : Expression) : Expression :=
  if isNever left || isNever right then .literal (.integer 0) else .binary .and left right

/-- A name given to what stands before it. -/
def label : Reader (Option String) := do
  if ← keyword? "AS" then return some (← name)
  else if ← isWindowClause then return none
  else return (← when? Token.isPlainName).map Token.name

mutual

def expression (fuel level : Nat) : Reader Expression :=
  match fuel with
  | 0 => throw .constructorLimit
  | fuel + 1 => do goOn fuel level (← term fuel)
termination_by structural fuel

/-- Operators of a level, or of higher ones, after an expression. -/
def goOn (fuel level : Nat) (left : Expression) : Reader Expression :=
  match fuel with
  | 0 => throw .constructorLimit
  | fuel + 1 => do
    let some token ← peek | return left
    match signOperators.find? fun entry => token.isSign entry.1 with
    | some (_, own, make) =>
      if own < level then return left
      else
        advance
        goOn fuel level (make left (← expression fuel (own + 1)))
    | none =>
      if token.isKeyword "OR" ∧ level ≤ orLevel then
        advance
        goOn fuel level (.binary .or left (← expression fuel andLevel))
      else if token.isKeyword "AND" ∧ level ≤ andLevel then
        advance
        goOn fuel level (both left (← expression fuel notLevel))
      else if token.isKeyword "COLLATE" ∧ level ≤ collateLevel then
        advance
        goOn fuel level (.collate left (← plainName))
      else if level ≤ equalLevel then
        match ← test? fuel left with
        | some value => goOn fuel level value
        | none => return left
      else return left
termination_by structural fuel

/-- The tests that are written as words. -/
def test? (fuel : Nat) (left : Expression) : Reader (Option Expression) :=
  match fuel with
  | 0 => throw .constructorLimit
  | fuel + 1 => do
    if ← keyword? "ISNULL" then return some (.unary .isNull left)
    else if ← keyword? "NOTNULL" then return some (.unary .notNull left)
    else if ← keyword? "IS" then
      let negative ← keyword? "NOT"
      let distinct ← (do
        if (← isNext (·.isKeyword "DISTINCT")) && (← isSecond (·.isKeyword "FROM")) then
          keywords ["DISTINCT", "FROM"]
          return true
        else return false)
      let right ← expression fuel lessLevel
      return some (.binary (if negative != distinct then .isNot else .is) left right)
    else
      let negative ← keyword? "NOT"
      if negative then if ← keyword? "NULL" then return some (.unary .notNull left)
      let pattern? ← when? fun token =>
        ["LIKE", "GLOB", "REGEXP", "MATCH"].any fun word => token.isKeyword word
      match pattern? with
      | some token =>
        let right ← expression fuel lessLevel
        let escape ← optional (·.isKeyword "ESCAPE") (do
          advance
          expression fuel lessLevel)
        return some (negated negative
          (.call { name := token.text, arguments := [right, left] ++ escape.toList }))
      | none =>
        if ← keyword? "BETWEEN" then
          let low ← expression fuel notLevel
          keyword "AND"
          let high ← expression fuel lessLevel
          return some (negated negative (.between left low high))
        else if ← keyword? "IN" then return some (negated negative (← choices fuel left))
        else if negative then refuse
        else return none
termination_by structural fuel

/-- What may follow the word for membership: values, a query or a table. -/
def choices (fuel : Nat) (left : Expression) : Reader Expression :=
  match fuel with
  | 0 => throw .constructorLimit
  | fuel + 1 => do
    if ← sign? "(" then
      if ← isNext isQueryStart then
        let query ← query fuel
        sign ")"
        return .amongRows left query
      else if ← sign? ")" then return never
      else
        let items ← list (expression fuel orLevel)
        sign ")"
        match left, items with
        | left, [.scalar query] => return .amongRows left query
        | .vector parts, items =>
          match items.mapM (rowOf parts.length) with
          | .ok rows => return .amongRows left (queryOfRows rows)
          | .error fault => throw fault
        | left, [item] =>
          if isConstant item then return .binary .equal left (.unary .plus item)
          else return .among left [item]
        | left, items => return .among left items
    else
      let table ← qualifiedName
      let arguments ← optional (·.isSign "(") (inBrackets (do
        if ← isNext (·.isSign ")") then return [] else list (expression fuel orLevel)))
      let content := match arguments with
        | some arguments => SourceContent.call table.name arguments
        | none => .table table.name
      return .amongRows left
        { core := { columns := [.all], sources := [{ content, label := none }] } }
termination_by structural fuel

def term (fuel : Nat) : Reader Expression :=
  match fuel with
  | 0 => throw .constructorLimit
  | fuel + 1 => do
    let some token ← peek | refuse
    match token.kind with
    | .integer | .real =>
      advance
      return Literal.number token.text.toList
    | .separated =>
      advance
      match Token.joinDigits token.text.toList with
      | .ok digits => return Literal.number digits
      | .error fault => throw fault
    | .text =>
      advance
      if (← isNext (·.isSign ".")) then path token.name [token.name] false
      else return .literal (.text token.name)
    | .blob =>
      advance
      return .literal (.blob (Literal.bytes ((token.text.toList.drop 2).dropLast)))
    | .parameter =>
      advance
      return .parameter ((Numeral.digits? (token.text.toList.drop 1)).getD 0)
    | .quotedName =>
      advance
      if ← isNext (·.isSign "(") then call fuel token.name
      else path token.name [token.name] (token.text.toList.head? = some '"')
    | .illegal => refuse
    | .sign =>
      if ← sign? "(" then
        if ← isNext isQueryStart then
          let query ← query fuel
          sign ")"
          return .scalar query
        else
          let items ← list (expression fuel orLevel)
          sign ")"
          match items with
          | [item] => return item
          | items => return .vector items
      else if ← sign? "-" then return Literal.negative (← expression fuel signLevel)
      else if ← sign? "+" then return .unary .plus (← expression fuel signLevel)
      else if ← sign? "~" then return .unary .complement (← expression fuel signLevel)
      else refuse
    | .word =>
      let word := token.text.toUpper
      let opens ← isSecond (·.isSign "(")
      if word = "NULL" then
        advance
        return .literal .null
      else if word = "NOT" then
        advance
        return .unary .not (← expression fuel notLevel)
      else if word = "EXISTS" then
        advance
        return .isThere (← inBrackets (query fuel))
      else if word = "CASE" then
        advance
        let base ← optional (fun token => !token.isKeyword "WHEN") (expression fuel orLevel)
        let arm : Reader (Expression × Expression) := do
          keyword "WHEN"
          let condition ← expression fuel orLevel
          keyword "THEN"
          return (condition, ← expression fuel orLevel)
        let first ← arm
        let more ← many (optional (·.isKeyword "WHEN") arm)
        let otherwise ← optional (·.isKeyword "ELSE") (do
          advance
          expression fuel orLevel)
        keyword "END"
        return .choose base (first :: more) (otherwise.getD (.literal .null))
      else if word = "CAST" then
        advance
        sign "("
        let operand ← expression fuel orLevel
        keyword "AS"
        let type ← typeName
        sign ")"
        return .cast operand type
      else if word = "RAISE" then
        advance
        sign "("
        if ← keyword? "IGNORE" then
          sign ")"
          return .raise .ignore (.literal .null)
        else
          let policy ←
            if ← keyword? "ROLLBACK" then pure Conflict.rollback
            else if ← keyword? "ABORT" then pure Conflict.abort
            else if ← keyword? "FAIL" then pure Conflict.fail
            else refuse
          sign ","
          let message ← expression fuel orLevel
          sign ")"
          return .raise policy message
      else if word ∈ ["CURRENT_DATE", "CURRENT_TIME", "CURRENT_TIMESTAMP"] then
        advance
        return .call { name := word.toLower }
      else if word ∈ Token.reserved then refuse
      else
        advance
        if opens then call fuel token.text else path token.text [token.text] false
termination_by structural fuel

/-- The arguments of a function. -/
def call (fuel : Nat) (function : String) : Reader Expression :=
  match fuel with
  | 0 => throw .constructorLimit
  | fuel + 1 => do
    sign "("
    let star ← sign? "*"
    let distinct ← if star then pure false else keyword? "DISTINCT"
    if !distinct && !star then let _ ← keyword? "ALL"
    let arguments ←
      if star then pure []
      else if ← isNext (·.isSign ")") then pure []
      else list (expression fuel orLevel)
    let order ← optional (·.isKeyword "ORDER") (orderTerms fuel)
    sign ")"
    let filter ← (do
      if (← isNext (·.isKeyword "FILTER")) && (← isSecond (·.isSign "(")) then
        advance
        sign "("
        keyword "WHERE"
        let condition ← expression fuel orLevel
        sign ")"
        return some condition
      else return none)
    checkCount arguments.length mostArguments ("too many arguments on function " ++ function)
    let window ← if ← isOver then pure (some (← window fuel)) else pure none
    let order := if arguments.isEmpty then [] else order.getD []
    if window.isSome then
      if distinct then throw (.domain "DISTINCT is not supported for window functions")
      if !order.isEmpty then throw (.orderedCall function)
    return .call { name := function, star, distinct, arguments, order, filter, window }
termination_by structural fuel

/-- What a function sees around each row: a window with a name, or one that is told. -/
def window (fuel : Nat) : Reader Window :=
  match fuel with
  | 0 => throw .constructorLimit
  | fuel + 1 => do
    keyword "OVER"
    if ← isNext (·.isSign "(") then windowDefinition fuel
    else return { base := some (← name), plain := true }
termination_by structural fuel

def windowDefinition (fuel : Nat) : Reader Window :=
  match fuel with
  | 0 => throw .constructorLimit
  | fuel + 1 => do
    sign "("
    let base ← optional (fun token => token.isName && !isWindowWord token) name
    let partition ← (do
      if ← keyword? "PARTITION" then
        keyword "BY"
        list (expression fuel orLevel)
      else return [])
    let order ← optional (·.isKeyword "ORDER") (orderTerms fuel)
    let frame ← frame fuel
    sign ")"
    return { base, partition, order := order.getD [], frame }
termination_by structural fuel

def frame (fuel : Nat) : Reader (Option WindowFrame) :=
  match fuel with
  | 0 => throw .constructorLimit
  | fuel + 1 => do
    let unit? : Option FrameUnit ←
      if ← keyword? "ROWS" then pure (some FrameUnit.rows)
      else if ← keyword? "RANGE" then pure (some .range)
      else if ← keyword? "GROUPS" then pure (some .groups)
      else pure none
    match unit? with
    | none => return none
    | some unit =>
      let between ← keyword? "BETWEEN"
      let start ← frameBound fuel "PRECEDING"
      let stop ←
        if between then
          keyword "AND"
          frameBound fuel "FOLLOWING"
        else pure .current
      let exclusion ← (do
        if ← keyword? "EXCLUDE" then
          if ← keyword? "NO" then
            keyword "OTHERS"
            return FrameExclusion.none
          else if ← keyword? "CURRENT" then
            keyword "ROW"
            return .current
          else if ← keyword? "GROUP" then return .group
          else
            keyword "TIES"
            return .ties
        else return .none)
      if !fits start stop then throw (.domain "unsupported frame specification")
      return some { unit, start, stop, exclusion }
termination_by structural fuel

/-- An end of a frame; an end without bounds has a word of its own behind it. -/
def frameBound (fuel : Nat) (outside : String) : Reader FrameBound :=
  match fuel with
  | 0 => throw .constructorLimit
  | fuel + 1 => do
    if ← keyword? "UNBOUNDED" then
      keyword outside
      return .unbounded
    else if ← keyword? "CURRENT" then
      keyword "ROW"
      return .current
    else
      let value ← expression fuel orLevel
      let amount := if isConstant value then value else .literal .null
      if ← keyword? "PRECEDING" then return .before amount
      else
        keyword "FOLLOWING"
        return .after amount
termination_by structural fuel

def orderTerms (fuel : Nat) : Reader (List OrderTerm) :=
  match fuel with
  | 0 => throw .constructorLimit
  | fuel + 1 => do
    keywords ["ORDER", "BY"]
    list (do
      let value ← expression fuel orLevel
      let down ← direction
      let nullsFirst ← (do
        if ← keyword? "NULLS" then
          if ← keyword? "FIRST" then return some true
          else
            keyword "LAST"
            return some false
        else return none)
      return { value, down, nullsFirst })
termination_by structural fuel

def query (fuel : Nat) : Reader Query :=
  match fuel with
  | 0 => throw .constructorLimit
  | fuel + 1 => do
    let named ← (do
      if ← keyword? "WITH" then
        let _ ← keyword? "RECURSIVE"
        list (do
          let own ← name
          let columns ← optional (·.isSign "(") (inBrackets (list name))
          keyword "AS"
          let isInlined ← keyword? "NOT"
          let isKept ← keyword? "MATERIALIZED"
          let keeping : Keeping := if isInlined then .inlined else if isKept then .kept else .open
          return { name := own, columns := columns.getD [], keeping
                   query := ← inBrackets (query fuel) })
      else return [])
    if let .error fault := checkNamed named then throw fault
    let first ← part fuel
    let rest ← many (do
      match ← compound? with
      | some operator =>
        let next ← part fuel
        let whole : Source := { content := .query next, label := none }
        let next := if next.rest.isEmpty then next
          else { core := { columns := [.all], sources := [whole] } }
        return some (operator, next)
      | none => return none)
    let parts := first :: rest.map fun entry => entry.2
    let early := (parts.zip (rest.map fun entry => entry.1)).filter fun entry =>
      !entry.1.order.isEmpty || entry.1.limit.isSome
    match early.getLast? with
    | some (part, operator) =>
      let clause := if part.order.isEmpty then "LIMIT" else "ORDER BY"
      throw (.domain s!"{clause} clause should come after {operator.words} not before")
    | none =>
      checkCount parts.length mostParts "too many terms in compound SELECT"
      let last := parts.getLast?.getD first
      let rest := first.rest ++ rest.map fun (operator, part) => (operator, part.core)
      return { last with named, core := first.core, rest }
termination_by structural fuel

/-- One part of a query, with an order and limits, or rows that are told. -/
def part (fuel : Nat) : Reader Query :=
  match fuel with
  | 0 => throw .constructorLimit
  | fuel + 1 => do
    if ← keyword? "VALUES" then
      let rows ← list (inBrackets (list (expression fuel orLevel)))
      if rows.any fun row => row.length ≠ (rows.headD []).length then throw .rowWidths
      return queryOfRows rows
    else
      let core ← core fuel
      let order ← optional (·.isKeyword "ORDER") (orderTerms fuel)
      let order := order.getD []
      let limit ← optional (·.isKeyword "LIMIT") (do
        advance
        expression fuel orLevel)
      if limit.isNone then return { core, order }
      else if ← sign? "," then
        return { core, order, limit := some (← expression fuel orLevel), offset := limit }
      else
        let offset ← optional (·.isKeyword "OFFSET") (do
          advance
          expression fuel orLevel)
        return { core, order, limit, offset }
termination_by structural fuel

def core (fuel : Nat) : Reader Core :=
  match fuel with
  | 0 => throw .constructorLimit
  | fuel + 1 => do
    keyword "SELECT"
    let distinct ← keyword? "DISTINCT"
    if !distinct then let _ ← keyword? "ALL"
    let columns ← list (resultColumn fuel)
    let sources ← if ← keyword? "FROM" then sources fuel else pure []
    let filter ← optional (·.isKeyword "WHERE") (do
      advance
      expression fuel orLevel)
    let group ← (do
      if ← keyword? "GROUP" then
        keyword "BY"
        list (expression fuel orLevel)
      else return [])
    let having ← optional (·.isKeyword "HAVING") (do
      advance
      expression fuel orLevel)
    let definitions ← (do
      if ← isWindowClause then
        advance
        list (do
          let own ← name
          keyword "AS"
          return (own, ← windowDefinition fuel))
      else return [])
    match Window.settleAll definitions with
    | .ok definitions =>
      return { distinct, columns, sources, filter, group, having, definitions }
    | .error fault => throw fault
termination_by structural fuel

def resultColumn (fuel : Nat) : Reader ResultColumn :=
  match fuel with
  | 0 => throw .constructorLimit
  | fuel + 1 => do
    if ← sign? "*" then return .all
    else
      let unread ← get
      match unread.tokens with
      | table :: point :: star :: _ =>
        if table.isName ∧ point.isSign "." ∧ star.isSign "*" then
          advance
          advance
          advance
          return .allOf table.name
        else oneColumn fuel
      | _ => oneColumn fuel
termination_by structural fuel

def oneColumn (fuel : Nat) : Reader ResultColumn :=
  match fuel with
  | 0 => throw .constructorLimit
  | fuel + 1 => do
    let start ← nextStart
    let value ← expression fuel orLevel
    let stop := (← get).place
    let text ← written start stop
    return .one value (← label) text
termination_by structural fuel

def sources (fuel : Nat) : Reader (List Source) :=
  match fuel with
  | 0 => throw .constructorLimit
  | fuel + 1 => do
    let first ← source fuel .inner false
    if first.condition.isSome then throw (.domain "a JOIN clause is required before ON")
    if !first.shared.isEmpty then throw (.domain "a JOIN clause is required before USING")
    let rest ← many (do
      if ← sign? "," then return some (← source fuel .inner false)
      else
        match ← joinWords? with
        | none => return none
        | some words =>
          let natural := words.any fun word => word.toUpper = "NATURAL"
          let crossed := words.any fun word => word.toUpper = "CROSS"
          return some { ← source fuel (← joinKind words) natural with crossed })
    checkCount (rest.length + 1) mostSources
      ("too many FROM clause terms, max: " ++ toString mostSources)
    return first :: rest
termination_by structural fuel

def source (fuel : Nat) (join : JoinKind) (natural : Bool) : Reader Source :=
  match fuel with
  | 0 => throw .constructorLimit
  | fuel + 1 => do
    let content ← (do
      if ← sign? "(" then
        if ← isNext isQueryStart then
          let query ← query fuel
          sign ")"
          return .query query
        else
          let inner ← sources fuel
          sign ")"
          return .joined inner
      else
        let table ← qualifiedName
        if ← sign? "(" then
          let arguments ← if ← isNext (·.isSign ")") then pure []
            else list (expression fuel orLevel)
          sign ")"
          return .call table.name arguments
        else return .table table.name)
    let label ← label
    let hint ← match content with
      | .table _ => indexHint
      | _ => pure .free
    let condition ← optional (·.isKeyword "ON") (do
      advance
      expression fuel orLevel)
    let shared ← optional (fun token => condition.isNone && token.isKeyword "USING") (do
      advance
      inBrackets (list name))
    return { content, label, join, natural, condition, shared := shared.getD [], hint }
termination_by structural fuel

end

/-- The nesting that an expression may have at most. Each level takes some steps of reading. -/
def depthLimit : Nat := 4000

def anyExpression : Reader Expression := expression depthLimit orLevel

def anyQuery : Reader Query := query depthLimit

end SignalGraph.Database.Reader
