import SignalGraph.Json.Value
import SignalGraph.Number.Notation

/-! Writing JSON text, on one line without blanks or indented by two blanks a level.

Strings escape the quote, the backslash and the characters below U+0020, and nothing else.
-/

set_option autoImplicit false

namespace SignalGraph

inductive Layout where
  | compact
  | indented
  deriving DecidableEq

namespace Layout

/-- What comes before an item, or before the bracket that closes a container. -/
def lineBreak : Layout → Nat → List Char
  | compact, _ => []
  | indented, level => '\n' :: List.replicate (2 * level) ' '

def colon : Layout → List Char
  | compact => [':']
  | indented => [':', ' ']

end Layout

namespace Tree

def hexDigit (n : Nat) : Char := (Nat.digitChar n)

def escape (c : Char) : List Char :=
  if c = '"' then ['\\', '"']
  else if c = '\\' then ['\\', '\\']
  else if c = '\x08' then ['\\', 'b']
  else if c = '\t' then ['\\', 't']
  else if c = '\n' then ['\\', 'n']
  else if c = '\x0c' then ['\\', 'f']
  else if c = '\r' then ['\\', 'r']
  else if c.toNat < 0x20 then
    ['\\', 'u', '0', '0', hexDigit (c.toNat / 16), hexDigit (c.toNat % 16)]
  else [c]

def quote (text : String) : List Char := '"' :: (text.toList.flatMap escape ++ ['"'])

def integerText (n : Int) : List Char :=
  if n < 0 then '-' :: Nat.toDigits 10 n.natAbs else Nat.toDigits 10 n.natAbs

/-- The text of a float; the doubles that are no numbers have none in JSON. -/
def floatText (x : Binary64) : List Char :=
  if x.IsFinite then x.toText else ['n', 'u', 'l', 'l']

mutual

def render (layout : Layout) (level : Nat) : Tree → List Char
  | null => ['n', 'u', 'l', 'l']
  | bool true => ['t', 'r', 'u', 'e']
  | bool false => ['f', 'a', 'l', 's', 'e']
  | integer n => integerText n
  | float x => floatText x
  | string text => quote text
  | array [] => ['[', ']']
  | array items => '[' :: (renderItems layout (level + 1) items ++ (layout.lineBreak level ++ [']']))
  | object [] => ['{', '}']
  | object members =>
    '{' :: (renderMembers layout (level + 1) members ++ (layout.lineBreak level ++ ['}']))
  | unreadable => ['n', 'u', 'l', 'l']

def renderItems (layout : Layout) (level : Nat) : List Tree → List Char
  | [] => []
  | [item] => layout.lineBreak level ++ render layout level item
  | item :: rest =>
    layout.lineBreak level ++ (render layout level item ++ ',' :: renderItems layout level rest)

def renderMembers (layout : Layout) (level : Nat) : List (String × Tree) → List Char
  | [] => []
  | [(key, value)] =>
    layout.lineBreak level ++ (quote key ++ (layout.colon ++ render layout level value))
  | (key, value) :: rest =>
    layout.lineBreak level ++ (quote key ++ (layout.colon ++ (render layout level value ++
      ',' :: renderMembers layout level rest)))

end

/-- The text on one line. -/
def compact (tree : Tree) : String := String.ofList (render .compact 0 tree)

/-- The text on indented lines. -/
def indented (tree : Tree) : String := String.ofList (render .indented 0 tree)

end Tree

namespace Json

def compact (value : Json) : String := value.tree.compact

end Json

end SignalGraph
