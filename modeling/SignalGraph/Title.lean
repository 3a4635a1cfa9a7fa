import SignalGraph.Text.Blank

/-! The title that a script declares for itself.

A declaration is a keyword, an opening parenthesis and a quoted text that is not empty and
holds no quote of either sort; blanks may stand around the parenthesis. The first declaration
of an indicator gives the title, or the first of a strategy where no indicator is declared.
-/

set_option autoImplicit false

namespace SignalGraph.Title

def isQuote (c : Char) : Bool := c == '"' || c == '\''

/-- What follows a word that the text starts with. -/
def after? : List Char → List Char → Option (List Char)
  | [], text => some text
  | _ :: _, [] => none
  | expected :: word, found :: text => if expected = found then after? word text else none

/-- The quoted text at the start of a text, if it is closed and not empty. -/
def quoted? : List Char → Option (List Char)
  | [] => none
  | mark :: text =>
    let run := text.takeWhile fun c => !isQuote c
    if isQuote mark ∧ run ≠ [] ∧ text.dropWhile (fun c => !isQuote c) ≠ [] then some run else none

/-- The quoted text of a declaration that starts the text. -/
def declaration? (keyword : List Char) (text : List Char) : Option (List Char) := do
  let rest ← after? keyword text
  let rest ← after? ['('] (rest.dropWhile isBlank)
  quoted? (rest.dropWhile isBlank)

/-- The quoted text of the first declaration in the text. -/
def firstDeclaration? (keyword : List Char) : List Char → Option (List Char)
  | [] => none
  | c :: text =>
    match declaration? keyword (c :: text) with
    | some quoted => some quoted
    | none => firstDeclaration? keyword text

/-- The title that decides, before its ends are trimmed. -/
def declared? (code : List Char) : Option (List Char) :=
  match firstDeclaration? "indicator".toList code with
  | some quoted => some quoted
  | none => firstDeclaration? "strategy".toList code

/-- The trimmed title; a blank one is no title. -/
def ofCode? (code : String) : Option String :=
  ((declared? code.toList).map fun quoted => String.ofList (trimBlanks quoted)).filter (· ≠ "")

example : ofCode? "strategy('A') indicator( \" B \")" = some "B" := by decide +kernel
example : ofCode? "strategy('A') indicator(\" \")" = none := by decide +kernel
example : ofCode? "indicator(title='A') strategy('B')" = some "B" := by decide +kernel

end SignalGraph.Title
