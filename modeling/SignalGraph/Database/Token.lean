import SignalGraph.Database.Datum
import SignalGraph.Database.Fault

/-! Statements as tokens: words, names and texts in quotes, numbers and signs. -/

set_option autoImplicit false

namespace SignalGraph.Database

inductive TokenKind where
  /-- A name or a keyword. -/
  | word
  /-- A name in double quotes, accents or square brackets. -/
  | quotedName
  | text
  | blob
  | integer
  | real
  /-- A number with lines between its digits. -/
  | separated
  | parameter
  | sign
  | illegal
  deriving DecidableEq

structure Token where
  kind : TokenKind
  /-- The characters as they are written. -/
  text : String
  /-- Where the token begins and ends, in characters of the statement. -/
  start : Nat
  stop : Nat

namespace Token

def isLetter (c : Char) : Bool := c.isAlpha || c == '_' || 0x80 ≤ c.toNat

def isNameCharacter (c : Char) : Bool := isLetter c || c.isDigit || c == '$'

/-- What stands up to a closing quote, which two in a row do not close, and what follows. -/
def quoted (quote : Char) : List Char → Option (List Char × List Char)
  | [] => none
  | [c] => if c = quote then some ([c], []) else none
  | c :: d :: rest =>
    if c = quote then
      if d = quote then (quoted quote rest).map fun (body, rest) => (c :: d :: body, rest)
      else some ([c], d :: rest)
    else (quoted quote (d :: rest)).map fun (body, rest) => (c :: body, rest)
termination_by text => text.length

/-- What follows a comment that ends with the line. -/
def afterLine (text : List Char) : List Char := text.dropWhile (· ≠ '\n')

/-- What follows a comment that a star and a slash end. -/
def afterComment : List Char → List Char
  | '*' :: '/' :: rest => rest
  | _ :: rest => afterComment rest
  | [] => []

/-- What follows blanks and comments. -/
def skip : Nat → List Char → List Char
  | 0, text => text
  | fuel + 1, text =>
    match text.dropWhile fun c => isSeparator c && c ≠ '\x0b' with
    | '-' :: '-' :: rest => skip fuel (afterLine rest)
    | '/' :: '*' :: c :: rest => skip fuel (afterComment (c :: rest))
    | rest => rest

/-- Signs of two characters. -/
def doubleSigns : List String :=
  ["==", "<=", "<>", "<<", ">=", ">>", "!=", "||", "->"]

def isHexDigit (c : Char) : Bool := c.isDigit || ('a' ≤ c.toLower && c.toLower ≤ 'f')

/-- Digits in front, with lines between them, and what follows. -/
def splitNumber (isDigit : Char → Bool) (text : List Char) : List Char × List Char :=
  let inside (c : Char) : Bool := isDigit c || c = '_'
  (text.takeWhile inside, text.dropWhile inside)

/-- The exponent that a text begins with: its mark, a sign and digits. -/
def splitExponent (text : List Char) : List Char × List Char :=
  match text with
  | mark :: rest =>
    if mark = 'e' ∨ mark = 'E' then
      let (sign, power) := match rest with
        | '-' :: power => (['-'], power)
        | '+' :: power => (['+'], power)
        | power => ([], power)
      if (power.headD ' ').isDigit then
        let (size, rest) := splitNumber Char.isDigit power
        (mark :: sign ++ size, rest)
      else ([], text)
    else ([], text)
  | [] => ([], [])

/-- A number: digits, a point and an exponent, or digits of base sixteen. -/
def number (text : List Char) : TokenKind × List Char × List Char :=
  let decimal : TokenKind × List Char × List Char :=
    let (digits, rest) := splitNumber Char.isDigit text
    let (places, rest) := match rest with
      | '.' :: rest =>
        let (places, rest) := splitNumber Char.isDigit rest
        ('.' :: places, rest)
      | rest => ([], rest)
    let (exponent, rest) := splitExponent rest
    (if places = [] ∧ exponent = [] then .integer else .real, digits ++ places ++ exponent, rest)
  let (kind, body, rest) := match text with
    | '0' :: x :: digit :: rest =>
      if (x = 'x' ∨ x = 'X') ∧ isHexDigit digit then
        let (digits, rest) := splitNumber isHexDigit (digit :: rest)
        (TokenKind.integer, '0' :: x :: digits, rest)
      else decimal
    | _ => decimal
  let more := rest.takeWhile isNameCharacter
  if more ≠ [] then (.illegal, body ++ more, rest.dropWhile isNameCharacter)
  else (if body.contains '_' then .separated else kind, body, rest)

/-- A number without the lines between its digits. A line that stands elsewhere is at fault; what
is told of it has lost the lines before. -/
def joinDigits (text : List Char) : Except StatementFault (List Char) :=
  let isDigit := match text with
    | '0' :: x :: _ => if x = 'x' ∨ x = 'X' then isHexDigit else Char.isDigit
    | _ => Char.isDigit
  go isDigit none [] text
where
  go (isDigit : Char → Bool) (fault : Option (List Char)) (done : List Char) :
      List Char → Except StatementFault (List Char)
    | [] =>
      match fault with
      | some told => .error (.unrecognized (String.ofList told))
      | none => .ok done.reverse
    | '_' :: rest =>
      let fits := (done.head?.any isDigit) && (rest.head?.any isDigit)
      let told := done.reverse ++ text.drop done.length
      go isDigit (if fits then fault else some told) done rest
    | c :: rest => go isDigit fault (c :: done) rest

/-- The kind and the characters of the token that a text begins with, and what follows. -/
def first : List Char → TokenKind × List Char × List Char
  | [] => (.sign, [], [])
  | c :: rest =>
    if c = '\'' ∨ c = '"' ∨ c = '\x60' then
      match quoted c rest with
      | some (body, rest) => (if c = '\'' then .text else .quotedName, c :: body, rest)
      | none => (.illegal, c :: rest, [])
    else if c = '[' then
      match rest.dropWhile (· ≠ ']') with
      | close :: after => (.quotedName, c :: rest.takeWhile (· ≠ ']') ++ [close], after)
      | [] => (.illegal, c :: rest, [])
    else if c.isDigit ∨ (c = '.' ∧ (rest.headD ' ').isDigit) then number (c :: rest)
    else if (c = 'x' ∨ c = 'X') ∧ rest.head? = some '\'' then
      let body := (rest.drop 1).takeWhile (· ≠ '\'')
      let after := (rest.drop 1).dropWhile (· ≠ '\'')
      if after ≠ [] ∧ body.all isHexDigit ∧ body.length % 2 = 0 then
        (.blob, c :: '\'' :: body ++ ['\''], after.drop 1)
      else (.illegal, c :: '\'' :: body ++ after.take 1, after.drop 1)
    else if isLetter c then
      (.word, c :: rest.takeWhile isNameCharacter, rest.dropWhile isNameCharacter)
    else if c = '?' then (.parameter, c :: rest.takeWhile Char.isDigit, rest.dropWhile Char.isDigit)
    else if c = ':' ∨ c = '@' ∨ c = '$' ∨ c = '#' then
      let name := rest.takeWhile isNameCharacter
      (if name = [] then .illegal else .parameter, c :: name, rest.dropWhile isNameCharacter)
    else
      let two := String.ofList (c :: rest.take 1)
      if two = "->" ∧ (rest.drop 1).head? = some '>' then (.sign, ['-', '>', '>'], rest.drop 2)
      else if two ∈ doubleSigns then (.sign, c :: rest.take 1, rest.drop 1)
      else if c ∈ ['-', '(', ')', ';', '+', '*', '/', '%', '=', '<', '>', '|', ',', '&', '~', '.'] then
        (.sign, [c], rest)
      else (.illegal, [c], rest)

/-- The tokens of a text that is a part of a statement from a place on. -/
def readFrom : Nat → Nat → List Char → List Token
  | 0, _, _ => []
  | fuel + 1, place, text =>
    let rest := skip text.length text
    if rest = [] then []
    else
      let start := place + (text.length - rest.length)
      let (kind, body, rest) := first rest
      let stop := start + body.length
      ⟨kind, String.ofList body, start, stop⟩ :: readFrom fuel stop rest

/-- All tokens of a text. Each takes a character at least. -/
def ofText (text : String) : List Token :=
  let characters := (text.toList.takeWhile (· ≠ '\x00'))
  readFrom characters.length 0 characters

/-- What stands up to a quote, of which two in a row count as one. -/
def upTo (quote : Char) : List Char → List Char
  | c :: d :: rest =>
    if c ≠ quote then c :: upTo quote (d :: rest)
    else if d = quote then c :: upTo quote rest
    else []
  | [c] => if c = quote then [] else [c]
  | [] => []
termination_by text => text.length

/-- What stands in the quotes that a text begins with, or the text if there are none. -/
def unquote (text : String) : String :=
  match text.toList with
  | c :: rest =>
    if c = '\'' ∨ c = '"' ∨ c = '\x60' then String.ofList (upTo c rest)
    else if c = '[' then String.ofList (rest.takeWhile (· ≠ ']'))
    else text
  | [] => text

/-- The name that a token is. -/
def name (token : Token) : String := unquote token.text

def isKeyword (token : Token) (word : String) : Bool :=
  token.kind = .word && token.text.toUpper = word

def isSign (token : Token) (sign : String) : Bool := token.kind = .sign && token.text = sign

/-- Keywords that are never names. -/
def reserved : List String :=
  ["ADD", "ALL", "ALTER", "AND", "AS", "AUTOINCREMENT", "BETWEEN", "CASE", "CHECK", "COLLATE",
   "COMMIT", "CONSTRAINT", "CREATE", "DEFAULT", "DEFERRABLE", "DELETE", "DISTINCT", "DROP",
   "ELSE", "ESCAPE", "EXCEPT", "EXISTS", "FOREIGN", "FROM", "GROUP", "HAVING", "IN", "INDEX",
   "INSERT", "INTERSECT", "INTO", "IS", "ISNULL", "JOIN", "LIMIT", "NOT", "NOTHING", "NOTNULL",
   "NULL", "ON", "OR", "ORDER", "PRIMARY", "REFERENCES", "RETURNING", "SELECT", "SET", "TABLE",
   "THEN", "TO", "TRANSACTION", "UNION", "UNIQUE", "UPDATE", "USING", "VALUES", "WHEN", "WHERE"]

/-- Keywords of joins: names, but not where a join may stand. -/
def joinWords : List String := ["CROSS", "FULL", "INNER", "LEFT", "NATURAL", "OUTER", "RIGHT"]

/-- The token can be a name, in a place where a text can be one too. -/
def isName (token : Token) : Bool :=
  match token.kind with
  | .word => token.text.toUpper ∉ reserved
  | .quotedName | .text => true
  | _ => false

/-- The token can be a name in an expression. -/
def isIdentifier (token : Token) : Bool :=
  match token.kind with
  | .word => token.text.toUpper ∉ reserved && token.text.toUpper ∉ joinWords
  | .quotedName => true
  | _ => false

/-- The token can be a name where a text can be one too, but not a word about joins or indexes. -/
def isPlainName (token : Token) : Bool :=
  token.kind = .text || (token.isIdentifier && !token.isKeyword "INDEXED")

/-- The token is a word that says how tables are joined. -/
def isJoinWord (token : Token) : Bool := token.kind = .word && token.text.toUpper ∈ joinWords

end Token

end SignalGraph.Database
