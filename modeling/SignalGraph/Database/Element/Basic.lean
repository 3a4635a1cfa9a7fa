import SignalGraph.Database.Datum
import SignalGraph.Json.Printer

/-! JSON as a database keeps it: with its numbers and strings spelled as they were.

A string may be plain, have the usual escapes, have looser ones, or be given as it is without
escapes. Looser numbers have a base of sixteen, or lack digits on one side of the point.
-/

set_option autoImplicit false

namespace SignalGraph.Database

/-- How the body of a string is spelled. -/
inductive Spelling where
  | plain
  | escaped
  | loose
  | raw
  deriving DecidableEq

/-- The body of a string, between its quotes. -/
structure Spelled where
  spelling : Spelling
  body : String
  deriving DecidableEq

inductive Element where
  | null
  | bool (value : Bool)
  | integer (loose : Bool) (digits : String)
  | real (loose : Bool) (digits : String)
  | text (value : Spelled)
  | array (items : List Element)
  | object (members : List (Spelled × Element))

instance : Inhabited Element := ⟨.null⟩

namespace Spelled

def hexValue (digits : List Char) : Nat :=
  digits.foldl (fun value c =>
    value * 16 + (if c.isDigit then c.toNat - '0'.toNat else c.toLower.toNat - 'a'.toNat + 10)) 0

def isHex (c : Char) : Bool := c.isDigit || ('a' ≤ c.toLower && c.toLower ≤ 'f')

def isLineMark (c : Char) : Bool := c = '\u2028' || c = '\u2029'

/-- What follows breaks of lines behind backslashes. -/
def skipBreaks : Nat → List Char → List Char
  | fuel + 1, '\\' :: '\r' :: '\n' :: rest => skipBreaks fuel rest
  | fuel + 1, '\\' :: c :: rest =>
    if c = '\n' ∨ c = '\r' ∨ isLineMark c then skipBreaks fuel rest else '\\' :: c :: rest
  | _, text => text

/-- The code of the escape in front of a text, if it is one, and what follows it. -/
def escape (text : List Char) : Option Nat × List Char :=
  match text with
  | 'u' :: rest =>
    let high := hexValue (rest.take 4)
    match rest.drop 4 with
    | '\\' :: 'u' :: low =>
      let second := hexValue (low.take 4)
      if high / 1024 = 54 ∧ second / 1024 = 55 ∧ 4 ≤ low.length then
        (some (high % 1024 * 1024 + second % 1024 + 0x10000), low.drop 4)
      else (some high, rest.drop 4)
    | after => if rest.length < 4 then (none, []) else (some high, after)
  | 'x' :: rest => if rest.length < 2 then (none, []) else (some (hexValue (rest.take 2)), rest.drop 2)
  | 'b' :: rest => (some 8, rest)
  | 'f' :: rest => (some 12, rest)
  | 'n' :: rest => (some 10, rest)
  | 'r' :: rest => (some 13, rest)
  | 't' :: rest => (some 9, rest)
  | 'v' :: rest => (some 11, rest)
  | '0' :: rest => (some 0, rest)
  | c :: rest =>
    if c = '\'' ∨ c = '"' ∨ c = '/' ∨ c = '\\' then (some c.toNat, rest) else (none, rest)
  | [] => (none, [])

/-- The bytes that a text with escapes stands for. -/
def unescape : Nat → List Char → List UInt8
  | 0, _ => []
  | fuel + 1, text =>
    match skipBreaks (text.length + 1) text with
    | '\\' :: rest =>
      let (code, rest) := escape rest
      ((code.map Bytes.ofCode).getD []) ++ unescape fuel rest
    | c :: rest => Bytes.ofChars [c] ++ unescape fuel rest
    | [] => []

/-- The text that is meant. -/
def value (text : Spelled) : String :=
  match text.spelling with
  | .plain | .raw => text.body
  | .escaped | .loose => Bytes.toText (unescape (text.body.length + 1) text.body.toList)

/-- Two labels mean the same. -/
def same (a b : Spelled) : Bool := if a = b then true else a.value == b.value

/-- A loose body with the usual escapes only. -/
def settle : Nat → List Char → List Char
  | fuel + 1, '\\' :: rest =>
    match rest with
    | '\'' :: rest => '\'' :: settle fuel rest
    | 'v' :: rest => "\\u000b".toList ++ settle fuel rest
    | 'x' :: a :: b :: rest => "\\u00".toList ++ a :: b :: settle fuel rest
    | '0' :: rest => "\\u0000".toList ++ settle fuel rest
    | '\r' :: '\n' :: rest | '\r' :: rest | '\n' :: rest => settle fuel rest
    | c :: rest => if isLineMark c then settle fuel rest else '\\' :: c :: settle fuel rest
    | [] => ['\\']
  | fuel + 1, c :: rest =>
    (if c = '"' ∨ c.toNat < 32 then Tree.escape c else [c]) ++ settle fuel rest
  | _, _ => []

/-- The string with its quotes, in the usual form. -/
def render (text : Spelled) : List Char :=
  match text.spelling with
  | .plain | .escaped => '"' :: (text.body.toList ++ ['"'])
  | .loose => '"' :: (settle (text.body.length + 1) text.body.toList ++ ['"'])
  | .raw => Tree.quote text.body

end Spelled

namespace Element

/-- The digits of base sixteen behind their sign, as a number. -/
def hexNumber (digits : List Char) : Bool × Nat :=
  match digits with
  | '-' :: _ :: _ :: rest => (true, Spelled.hexValue rest)
  | _ :: _ :: rest => (false, Spelled.hexValue rest)
  | _ => (false, 0)

/-- Digits on both sides of the point. -/
def completed (digits : List Char) : List Char :=
  let (sign, rest) := match digits with
    | '-' :: rest => (['-'], rest)
    | rest => ([], rest)
  let front := if rest.head? = some '.' then ['0'] else []
  let fill : List Char → List Char := fun text =>
    match text.dropWhile (· ≠ '.') with
    | '.' :: after =>
      text.takeWhile (· ≠ '.') ++
        if (after.head?.map Char.isDigit).getD false then '.' :: after else '.' :: '0' :: after
    | _ => text
  sign ++ front ++ fill rest

mutual

/-- The text of an element in one line. -/
def render : Element → List Char
  | null => ['n', 'u', 'l', 'l']
  | bool true => ['t', 'r', 'u', 'e']
  | bool false => ['f', 'a', 'l', 's', 'e']
  | integer true digits =>
    let (negative, size) := hexNumber digits.toList
    (if negative then ['-'] else []) ++
      if size < power 2 64 then Nat.toDigits 10 size else "9.0e999".toList
  | integer false digits | real false digits => digits.toList
  | real true digits => completed digits.toList
  | text value => value.render
  | array [] => ['[', ']']
  | array (item :: rest) => '[' :: (item.render ++ renderItems rest)
  | object [] => ['\x7b', '\x7d']
  | object ((label, value) :: rest) =>
    '\x7b' :: (label.render ++ ':' :: (value.render ++ renderMembers rest))

def renderItems : List Element → List Char
  | [] => [']']
  | item :: rest => ',' :: (item.render ++ renderItems rest)

def renderMembers : List (Spelled × Element) → List Char
  | [] => ['\x7d']
  | (label, value) :: rest => ',' :: (label.render ++ ':' :: (value.render ++ renderMembers rest))

end

def toText (element : Element) : String := String.ofList element.render

mutual

/-- The text of an element with a line for each part. -/
def pretty (indent : List Char) (level : Nat) : Element → List Char
  | array (item :: rest) =>
    let line := '\n' :: (List.replicate (level + 1) indent).flatten
    '[' :: (line ++ item.pretty indent (level + 1) ++ prettyItems indent (level + 1) line rest ++
      '\n' :: ((List.replicate level indent).flatten ++ [']']))
  | object ((label, value) :: rest) =>
    let line := '\n' :: (List.replicate (level + 1) indent).flatten
    '\x7b' :: (line ++ label.render ++ [':', ' '] ++ value.pretty indent (level + 1) ++
      prettyMembers indent (level + 1) line rest ++
      '\n' :: ((List.replicate level indent).flatten ++ ['\x7d']))
  | element => element.render

def prettyItems (indent : List Char) (level : Nat) (line : List Char) : List Element → List Char
  | [] => []
  | item :: rest => ',' :: (line ++ item.pretty indent level ++ prettyItems indent level line rest)

def prettyMembers (indent : List Char) (level : Nat) (line : List Char) :
    List (Spelled × Element) → List Char
  | [] => []
  | (label, value) :: rest =>
    ',' :: (line ++ label.render ++ [':', ' '] ++ value.pretty indent level ++
      prettyMembers indent level line rest)

end

/-- A number as a real. -/
def realOf (digits : String) : Datum := .ofReal (NumericFront.ofText digits).toReal

/-- The value of a database that an element stands for; nothing if its digits are none. -/
def toDatum? : Element → Option Datum
  | null => some .null
  | bool value => some (.ofBool value)
  | integer true digits =>
    let (negative, size) := hexNumber digits.toList
    if power 2 64 ≤ size then none
    else if power 2 63 ≤ size then
      let x := Binary64.ofNat size
      some (.real (if negative then -x else x))
    else some (.integer (if negative then -(size : Int) else size))
  | integer false digits =>
    let front := NumericFront.ofText digits
    if front.complete then some front.toDatum else none
  | real _ digits => some (realOf digits)
  | text value => some (.text value.value)
  | element => some (.text element.toText)

def typeName : Element → String
  | null => "null"
  | bool true => "true"
  | bool false => "false"
  | integer _ _ => "integer"
  | real _ _ => "real"
  | text _ => "text"
  | array _ => "array"
  | object _ => "object"

def isContainer : Element → Bool
  | array _ | object _ => true
  | _ => false

end Element

end SignalGraph.Database
