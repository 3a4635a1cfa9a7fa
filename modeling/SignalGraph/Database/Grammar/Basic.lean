import SignalGraph.Database.Statement
import SignalGraph.Database.Token

/-! Reading statements token by token. -/

set_option autoImplicit false

namespace SignalGraph.Database

/-- What is left of a statement, and where the last token that was read ends. -/
structure Unread where
  source : List Char
  tokens : List Token
  place : Nat

abbrev Reader := StateT Unread (Except StatementFault)

namespace Reader

variable {α : Type}

/-- The next token does not belong where it stands. -/
def refuse : Reader α := do
  match (← get).tokens with
  | [] => throw .incomplete
  | token :: _ => throw (if token.kind = .illegal then .unrecognized token.text else .near token.text)

def peek : Reader (Option Token) := do return (← get).tokens.head?

/-- The token after the next one. -/
def peekSecond : Reader (Option Token) := do return ((← get).tokens.drop 1).head?

def advance : Reader Unit := modify fun unread =>
  { unread with tokens := unread.tokens.drop 1
                place := (unread.tokens.head?.map fun token => token.stop).getD unread.place }

/-- Read the next token if it passes a test. -/
def when? (test : Token → Bool) : Reader (Option Token) := do
  match ← peek with
  | some token =>
    if test token then
      advance
      return some token
    else return none
  | none => return none

def need (test : Token → Bool) : Reader Token := do
  match ← when? test with
  | some token => return token
  | none => refuse

def keyword? (word : String) : Reader Bool := do return (← when? (·.isKeyword word)).isSome

def keyword (word : String) : Reader Unit := do let _ ← need (·.isKeyword word)

def keywords (words : List String) : Reader Unit := words.forM keyword

def sign? (text : String) : Reader Bool := do return (← when? (·.isSign text)).isSome

def sign (text : String) : Reader Unit := do let _ ← need (·.isSign text)

def isNext (test : Token → Bool) : Reader Bool := do return ((← peek).map test).getD false

def isSecond (test : Token → Bool) : Reader Bool := do return ((← peekSecond).map test).getD false

def name : Reader String := do return (← need Token.isName).name

def plainName : Reader String := do return (← need Token.isPlainName).name

/-- A name, and how it is written. -/
def writtenName : Reader WrittenName := do
  let token ← need Token.isName
  return { name := token.name, written := token.text }

/-- The name of a thing, with or without the database in front. -/
def qualifiedName : Reader WrittenName := do
  let first ← writtenName
  if ← sign? "." then
    let second ← writtenName
    return { second with qualified := true }
  else return first

/-- One or more, with commas between them. -/
def list (one : Reader α) : Reader (List α) := do
  let first ← one
  return first :: (← more (← get).tokens.length)
where
  more : Nat → Reader (List α)
    | 0 => return []
    | fuel + 1 => do
      if ← sign? "," then
        let next ← one
        return next :: (← more fuel)
      else return []

/-- As many as there are. -/
def many (one? : Reader (Option α)) : Reader (List α) := do
  go ((← get).tokens.length + 1)
where
  go : Nat → Reader (List α)
    | 0 => return []
    | fuel + 1 => do
      match ← one? with
      | some item => return item :: (← go fuel)
      | none => return []

def inBrackets (inner : Reader α) : Reader α := do
  sign "("
  let result ← inner
  sign ")"
  return result

def optional (test : Token → Bool) (inner : Reader α) : Reader (Option α) := do
  if ← isNext test then return some (← inner) else return none

/-- The characters of the statement between two places. -/
def written (start stop : Nat) : Reader String := do
  return String.ofList (((← get).source.drop start).take (stop - start))

/-- Where the next token begins. -/
def nextStart : Reader Nat := do
  let unread ← get
  return (unread.tokens.head?.map fun token => token.start).getD unread.place

/-- Tokens in brackets that do not matter, the brackets included. -/
def skipBrackets : Reader Unit := do
  sign "("
  go ((← get).tokens.length) 1
where
  go : Nat → Nat → Reader Unit
    | _, 0 => return
    | 0, _ => refuse
    | fuel + 1, depth + 1 => do
      if ← sign? "(" then go fuel (depth + 2)
      else if ← sign? ")" then go fuel depth
      else
        let _ ← need fun token => token.kind ≠ .illegal
        go fuel (depth + 1)

end Reader

end SignalGraph.Database
