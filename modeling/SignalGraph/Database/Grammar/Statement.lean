import SignalGraph.Database.Grammar.Expression

/-! Reading the statements that make tables, indexes, views and triggers, and those that change
rows.
-/

set_option autoImplicit false

namespace SignalGraph.Database.Reader

def ifAbsent : Reader Bool := do
  if (← isNext (·.isKeyword "IF")) && (← isSecond (·.isKeyword "NOT")) then
    keywords ["IF", "NOT", "EXISTS"]
    return true
  else return false

/-- What to do about a broken constraint, after the words that introduce it. -/
def policy : Reader Conflict := do
  if ← keyword? "ROLLBACK" then return .rollback
  else if ← keyword? "ABORT" then return .abort
  else if ← keyword? "FAIL" then return .fail
  else if ← keyword? "IGNORE" then return .ignore
  else
    keyword "REPLACE"
    return .replace

def onConflict : Reader (Option Conflict) := do
  if ← keyword? "ON" then
    keyword "CONFLICT"
    return some (← policy)
  else return none

def orConflict : Reader (Option Conflict) := do
  if ← keyword? "OR" then return some (← policy) else return none

/-- A term that an index goes by. It has no say in where nulls are. -/
def keyTerm : Reader KeyTerm := do
  let value ← anyExpression
  let down ← direction
  if ← keyword? "NULLS" then
    if ← keyword? "FIRST" then throw (.domain "unsupported use of NULLS FIRST")
    else
      keyword "LAST"
      throw (.domain "unsupported use of NULLS LAST")
  return { value, down }

def counted : Reader Bool := keyword? "AUTOINCREMENT"

/-- Names of columns in brackets, if there are any. -/
def columnNames : Reader (List String) := do
  if ← isNext (·.isSign "(") then
    inBrackets (list (do
      let column ← name
      if ← keyword? "COLLATE" then let _ ← plainName
      let _ ← direction
      return column))
  else return []

def action : Reader ReferenceAction := do
  if ← keyword? "SET" then
    if ← keyword? "NULL" then return .setNull
    else
      keyword "DEFAULT"
      return .setDefault
  else if ← keyword? "CASCADE" then return .cascade
  else if ← keyword? "RESTRICT" then return .restrict
  else
    keywords ["NO", "ACTION"]
    return .none

/-- Whether a reference is only looked at in the end, if that is written. -/
def deferral : Reader (Option Bool) := do
  let negative ← (do
    if (← isNext (·.isKeyword "NOT")) && (← isSecond (·.isKeyword "DEFERRABLE")) then keyword? "NOT"
    else return false)
  if ← keyword? "DEFERRABLE" then
    if ← keyword? "INITIALLY" then
      if ← keyword? "DEFERRED" then return some !negative
      else
        keyword "IMMEDIATE"
        return some false
    else return some false
  else return none

def reference : Reader Reference := do
  let parent ← name
  let columns ← columnNames
  let changes ← many (do
    if ← keyword? "ON" then
      if ← keyword? "DELETE" then return some (some (false, ← action))
      else if ← keyword? "UPDATE" then return some (some (true, ← action))
      else
        keyword "INSERT"
        let _ ← action
        return some none
    else if ← keyword? "MATCH" then
      let _ ← name
      return some none
    else return none)
  let changes := changes.filterMap id
  let actionOf (update : Bool) : ReferenceAction :=
    ((changes.filter fun change => change.1 = update).getLast?.map fun change => change.2).getD .none
  return { parent, columns, onDelete := actionOf false, onUpdate := actionOf true }

/-- Characters of the statement without the blanks around them. -/
def trimmed (start stop : Nat) : Reader String := do
  let text ← written start stop
  let trimmed := (text.toList.dropWhile isSeparator).reverse.dropWhile isSeparator
  return String.ofList trimmed.reverse

/-- The value that a column has by itself, and how it is written. A lone word is a text. -/
def defaultValue : Reader (Expression × String) := do
  let start ← nextStart
  if ← sign? "(" then
    let value ← anyExpression
    let stop ← nextStart
    sign ")"
    return (value, ← trimmed (start + 1) stop)
  else
    let plus ← sign? "+"
    let minus ← if plus then pure false else sign? "-"
    let some token ← peek | refuse
    let value ← match token.kind with
      | .integer | .real | .separated | .text | .blob => expression depthLimit signLevel
      | .word | .quotedName =>
        if token.isKeyword "NULL" then expression depthLimit signLevel
        else if ["CURRENT_DATE", "CURRENT_TIME", "CURRENT_TIMESTAMP"].any fun word =>
            token.isKeyword word then
          expression depthLimit signLevel
        else if token.isIdentifier ∧ ¬plus ∧ ¬minus then
          advance
          pure (match token.text.toUpper with
            | "TRUE" => .literal (.integer 1)
            | "FALSE" => .literal (.integer 0)
            | _ => .literal (.text token.name))
        else refuse
      | _ => refuse
    let written ← trimmed start (← get).place
    return (if minus then Literal.negative value else value, written)

/-- A condition in brackets, and the characters between them. -/
def condition : Reader (Expression × String) := do
  let start ← nextStart
  sign "("
  let value ← anyExpression
  let stop ← nextStart
  sign ")"
  return (value, Token.unquote (← trimmed (start + 1) stop))

/-- The name in front of a rule; it stays for the rules that follow it. -/
def constraintName (before : Option String) : Reader (Option String) := do
  if ← keyword? "CONSTRAINT" then return some (← name) else return before

def columnRule? (label : Option String) : Reader (Option ColumnRule) := do
  if ← keyword? "DEFAULT" then
    let (value, written) ← defaultValue
    return some (.default value written)
  else if ← keyword? "NULL" then
    let _ ← onConflict
    return some (.deferred false)
  else if ← keyword? "PRIMARY" then
    keyword "KEY"
    let down ← direction
    let policy ← onConflict
    return some (.primaryKey down (← counted) policy)
  else if ← keyword? "UNIQUE" then return some (.unique (← onConflict))
  else if ← keyword? "CHECK" then
    let (value, text) ← condition
    return some (.check value (label.getD text))
  else if ← keyword? "REFERENCES" then return some (.references (← reference))
  else if ← keyword? "COLLATE" then return some (.collate (← plainName))
  else if (← isNext (·.isKeyword "GENERATED")) || (← isNext (·.isKeyword "AS")) then
    if ← keyword? "GENERATED" then keyword "ALWAYS"
    keyword "AS"
    let value ← inBrackets anyExpression
    let how ← when? fun token => token.kind ≠ .text && token.isPlainName
    return some (.generated value (how.any fun token => token.isKeyword "STORED")
      (how.map Token.text))
  else
    match ← deferral with
    | some deferred => return some (.deferred deferred)
    | none =>
      if ← keyword? "NOT" then
        keyword "NULL"
        return some (.notNull (← onConflict))
      else return none

/-- The rules of a column, each with the name that stands before it or stood before an earlier
one. -/
def columnRules : Nat → Option String → Reader (List ColumnRule)
  | 0, _ => return []
  | fuel + 1, label => do
    let named ← constraintName label
    match ← columnRule? named with
    | some rule => return rule :: (← columnRules fuel named)
    | none => if named = label then return [] else columnRules fuel named

/-- A type without the words at its end that announce how the column is made. -/
def plainType (type : String) : String :=
  let cut (word : String) (reversed : List Char) : Option (List Char) :=
    if (reversed.take word.length).map Char.toLower = word.toList.reverse then
      some ((reversed.drop word.length).dropWhile isSeparator)
    else none
  let reversed := type.toList.reverse
  match if reversed.length < 16 then none else cut "always" reversed with
  | none => type
  | some before => String.ofList ((cut "generated" before).getD before).reverse

def columnDefinition : Reader ColumnDefinition := do
  let own ← name
  let type ← typeName
  return { name := own, type := plainType type
           rules := ← columnRules (← get).tokens.length none }

def tableRule? (label : Option String) : Reader (Option TableRule) := do
  if ← keyword? "PRIMARY" then
    keyword "KEY"
    sign "("
    let terms ← list keyTerm
    let counted ← counted
    sign ")"
    return some (.primaryKey terms counted (← onConflict))
  else if ← keyword? "UNIQUE" then
    let terms ← inBrackets (list keyTerm)
    return some (.unique terms (← onConflict))
  else if ← keyword? "CHECK" then
    let (value, text) ← condition
    let _ ← onConflict
    return some (.check value (label.getD text))
  else if ← keyword? "FOREIGN" then
    keyword "KEY"
    let columns ← inBrackets (list name)
    keyword "REFERENCES"
    let reference ← reference
    let deferred ← deferral
    return some (.foreignKey columns { reference with deferred := deferred.getD false })
  else return none

/-- Rules of the whole table, with or without commas between them. -/
def tableRules : Nat → Option String → Reader (List TableRule)
  | 0, _ => return []
  | fuel + 1, label => do
    let comma ← sign? ","
    let label := if comma then none else label
    let named ← constraintName label
    match ← tableRule? named with
    | some rule => return rule :: (← tableRules fuel named)
    | none => if comma then refuse else if named = label then return [] else tableRules fuel named

def isTableRuleStart (token : Token) : Bool :=
  ["CONSTRAINT", "PRIMARY", "UNIQUE", "CHECK", "FOREIGN"].any fun word => token.isKeyword word

/-- The columns after the first one. A word that only rules begin with ends them. -/
def moreColumns : Nat → Reader (List ColumnDefinition)
  | 0 => return []
  | fuel + 1 => do
    if (← isNext (·.isSign ",")) && !(← isSecond isTableRuleStart) then
      advance
      let column ← columnDefinition
      return column :: (← moreColumns fuel)
    else return []

def tableOption : Reader String := do
  if ← keyword? "WITHOUT" then
    let word ← name
    if word.toUpper = "ROWID" then return "WITHOUT" else throw (.unknownOption word)
  else
    let word ← name
    if word.toUpper = "STRICT" then return "STRICT" else throw (.unknownOption word)

def createTable : Reader Statement := do
  let absent ← ifAbsent
  let name ← qualifiedName
  if ← keyword? "AS" then return .createTableFrom name (← anyQuery)
  else
    sign "("
    let first ← columnDefinition
    let fuel := (← get).tokens.length + 1
    let columns ← moreColumns fuel
    let rules ← if ← isNext (·.isSign ",") then tableRules fuel none else pure []
    sign ")"
    let options ← (do
      let starts ← isNext Token.isName
      if starts then list tableOption else return [])
    return .createTable absent { name, columns := first :: columns, rules, options }

def whereClause : Reader (Option Expression) :=
  optional (·.isKeyword "WHERE") (do
    advance
    anyExpression)

def createIndex (unique : Bool) : Reader Statement := do
  let absent ← ifAbsent
  let own ← qualifiedName
  keyword "ON"
  let table ← name
  let terms ← inBrackets (list keyTerm)
  return .createIndex absent
    { name := own, table, terms, unique, filter := ← whereClause }

def createView : Reader Statement := do
  let _ ← ifAbsent
  let own ← qualifiedName
  let columns ← columnNames
  keyword "AS"
  return .createView own columns (← anyQuery)

def assignment : Reader (List String × Expression) := do
  if ← isNext (·.isSign "(") then
    let columns ← inBrackets (list name)
    sign "="
    let value ← anyExpression
    let width := match value with
      | .vector items => items.length
      | .scalar _ => columns.length
      | _ => 1
    if width ≠ columns.length then throw (.assignedWidth columns.length width)
    return (columns, value)
  else
    let column ← name
    sign "="
    return ([column], ← anyExpression)

def upserts : Nat → Reader (List Upsert)
  | 0 => return []
  | fuel + 1 => do
    if ← keyword? "ON" then
      keyword "CONFLICT"
      let target ← if ← isNext (·.isSign "(") then inBrackets (list keyTerm) else pure []
      let own ← if target.isEmpty then pure none else whereClause
      keyword "DO"
      if ← keyword? "NOTHING" then return ⟨target, own, none⟩ :: (← upserts fuel)
      else
        keywords ["UPDATE", "SET"]
        let changes ← list assignment
        let filter ← whereClause
        return ⟨target, own, some (changes, filter)⟩ :: (← upserts fuel)
    else return []

/-- The table that rows are changed in. Triggers name it without its database. -/
def changedTable (inTrigger : Bool) : Reader WrittenName := do
  if inTrigger then if ← isSecond (·.isSign ".") then throw .qualifiedChange
  let table ← qualifiedName
  if !inTrigger then if ← keyword? "AS" then let _ ← name
  return table

/-- What is said about the index to find rows by that are changed. Triggers do not say it. -/
def changedHint (inTrigger : Bool) : Reader Unit := do
  let words := match ← indexHint with
    | .free => none
    | .without => some "NOT INDEXED"
    | .named _ => some "INDEXED BY"
  match words with
  | some words =>
    if inTrigger then
      throw (.domain ("the " ++ words ++
        " clause is not allowed on UPDATE or DELETE statements within triggers"))
  | none => return

def insert (inTrigger : Bool) (policy : Option Conflict) : Reader Change := do
  keyword "INTO"
  let table ← changedTable inTrigger
  let columns ← if ← isNext (·.isSign "(") then inBrackets (list name) else pure []
  if !inTrigger && (← isNext (·.isKeyword "DEFAULT")) then
    keywords ["DEFAULT", "VALUES"]
    return .insert policy table columns none []
  else
    let rows ← anyQuery
    return .insert policy table columns (some rows) (← upserts (← get).tokens.length)

def change (inTrigger : Bool) : Reader Change := do
  if ← keyword? "INSERT" then insert inTrigger (← orConflict)
  else if ← keyword? "REPLACE" then insert inTrigger (some .replace)
  else if ← keyword? "UPDATE" then
    let policy ← orConflict
    let table ← changedTable inTrigger
    changedHint inTrigger
    keyword "SET"
    let changes ← list assignment
    let from_ ← if ← keyword? "FROM" then sources depthLimit else pure []
    return .update policy table changes from_ (← whereClause)
  else if ← keyword? "DELETE" then
    keyword "FROM"
    let table ← changedTable inTrigger
    changedHint inTrigger
    return .delete table (← whereClause)
  else return .select (← anyQuery)

def triggerTime : Reader TriggerTime := do
  if ← keyword? "AFTER" then return .after
  else if ← keyword? "INSTEAD" then
    keyword "OF"
    return .instead
  else
    let _ ← keyword? "BEFORE"
    return .before

def triggerEvent : Reader TriggerEvent := do
  if ← keyword? "INSERT" then return .insert
  else if ← keyword? "DELETE" then return .delete
  else
    keyword "UPDATE"
    if ← keyword? "OF" then return .update (← list name) else return .update []

/-- A trigger as far as the word that its steps follow. -/
def triggerHead : Reader TriggerDefinition := do
  let _ ← ifAbsent
  let own ← qualifiedName
  let time ← triggerTime
  let event ← triggerEvent
  keyword "ON"
  let table ← qualifiedName
  if ← keyword? "FOR" then keywords ["EACH", "ROW"]
  let condition ← optional (·.isKeyword "WHEN") (do
    advance
    anyExpression)
  keyword "BEGIN"
  return { name := own, time, event, table := table.name, condition, steps := [] }

def createTrigger : Reader Statement := do
  let head ← triggerHead
  let step : Reader Change := do
    let step ← change true
    sign ";"
    return step
  let first ← step
  let rest ← many (optional (fun token => !token.isKeyword "END") step)
  keyword "END"
  return .createTrigger { head with steps := first :: rest }

def createVirtual : Reader Statement := do
  keyword "TABLE"
  let _ ← ifAbsent
  let own ← qualifiedName
  keyword "USING"
  let module ← name
  if ← isNext (·.isSign "(") then skipBrackets
  return .createVirtual own module

def skipTemporary : Reader Unit := do
  if (← isNext (·.isKeyword "TEMP")) || (← isNext (·.isKeyword "TEMPORARY")) then advance

/-- What a statement is going to make, from its first tokens. -/
def announcement : Reader (Option Announcement) := do
  keyword "CREATE"
  skipTemporary
  if ← keyword? "TABLE" then
    let absent ← ifAbsent
    let own ← qualifiedName
    let goesOn ← isNext fun token => token.isSign "(" || token.isKeyword "AS"
    return if goesOn then some (.table absent own) else none
  else if ← keyword? "TRIGGER" then return some (.trigger (← triggerHead))
  else return none

def statement : Reader Statement := do
  let result ← (do
    if ← keyword? "CREATE" then
      skipTemporary
      if ← keyword? "TABLE" then createTable
      else if ← keyword? "UNIQUE" then
        keyword "INDEX"
        createIndex true
      else if ← keyword? "INDEX" then createIndex false
      else if ← keyword? "VIEW" then createView
      else if ← keyword? "TRIGGER" then createTrigger
      else if ← keyword? "VIRTUAL" then createVirtual
      else refuse
    else return .change (← change false))
  if (← peek).isSome then sign ";"
  return result

end SignalGraph.Database.Reader

namespace SignalGraph.Database

/-- The table or trigger that a text is about, even if it goes wrong later. -/
def Statement.announced? (text : String) : Option Announcement :=
  match Reader.announcement.run ⟨text.toList, Token.ofText text, 0⟩ with
  | .ok (announcement, _) => announcement
  | .error _ => none

/-- The statement that a text begins with. -/
def Statement.ofText (text : String) : Except StatementFault Statement := do
  let (statement, _) ← (Reader.statement).run ⟨text.toList, Token.ofText text, 0⟩
  return statement

end SignalGraph.Database
