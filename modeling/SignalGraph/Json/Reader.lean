import SignalGraph.Json.Tree
import SignalGraph.Number.Numeral

/-! Reading JSON text.

The grammar is strict: four blank characters, no comma before a closing bracket, no raw
control character in a string, no zero in front of another digit, nothing after the value.
What follows the grammar but denotes nothing becomes `Tree.unreadable` where it stands.
-/

set_option autoImplicit false

namespace SignalGraph.Tree

/-- The containers that may be open at once. -/
def depthLimit : Nat := 127

def isSpace (c : Char) : Bool := c == ' ' || c == '\n' || c == '\t' || c == '\r'

def skipSpace (text : List Char) : List Char := text.dropWhile isSpace

def hexValue? (c : Char) : Option Nat :=
  if c.isDigit then some (c.toNat - '0'.toNat)
  else if 'a' ≤ c ∧ c ≤ 'f' then some (c.toNat - 'a'.toNat + 10)
  else if 'A' ≤ c ∧ c ≤ 'F' then some (c.toNat - 'A'.toNat + 10)
  else none

def hexUnit? (a b c d : Char) : Option Nat := do
  return (((← hexValue? a) * 16 + (← hexValue? b)) * 16 + (← hexValue? c)) * 16 + (← hexValue? d)

/-- The character a short escape stands for. -/
def escaped? : Char → Option Char
  | '"' => some '"'
  | '\\' => some '\\'
  | '/' => some '/'
  | 'b' => some '\x08'
  | 'f' => some '\x0c'
  | 'n' => some '\n'
  | 'r' => some '\r'
  | 't' => some '\t'
  | _ => none

/-- The code units of a string up to its closing quote, and the text after it. A unit is a
code point or one half of a surrogate pair. -/
def readUnits : List Char → Option (List Nat × List Char)
  | [] => none
  | '"' :: rest => some ([], rest)
  | '\\' :: 'u' :: a :: b :: c :: d :: rest => do
    let unit ← hexUnit? a b c d
    let (units, rest) ← readUnits rest
    return (unit :: units, rest)
  | '\\' :: mark :: rest => do
    let character ← escaped? mark
    let (units, rest) ← readUnits rest
    return (character.toNat :: units, rest)
  | character :: rest =>
    if character.toNat < 0x20 then none
    else do
      let (units, rest) ← readUnits rest
      return (character.toNat :: units, rest)

def isHighSurrogate (unit : Nat) : Bool := 0xD800 ≤ unit && unit < 0xDC00

def isLowSurrogate (unit : Nat) : Bool := 0xDC00 ≤ unit && unit < 0xE000

/-- The characters that code units denote; none if a surrogate is left without its other half. -/
def characters? : List Nat → Option (List Char)
  | [] => some []
  | unit :: rest =>
    if isHighSurrogate unit then
      match rest with
      | [] => none
      | low :: rest =>
        if isLowSurrogate low then
          (characters? rest).map
            (Char.ofNat (0x10000 + (unit - 0xD800) * 0x400 + (low - 0xDC00)) :: ·)
        else none
    else if isLowSurrogate unit then none
    else (characters? rest).map (Char.ofNat unit :: ·)

def textOfUnits? (units : List Nat) : Option String := (characters? units).map String.ofList

/-- The value of a number literal. Without point and exponent it is an integer while it fits;
a negative zero and an integer that does not fit are floats. -/
def ofLiteral (negative : Bool) (whole places : List Char) (exponent : Option Int) : Tree :=
  let size := digitsValue 0 whole
  let value : Int := if negative then -(size : Int) else size
  if places = [] ∧ exponent = none ∧ InIntegerRange value ∧ ¬(negative ∧ size = 0) then
    integer value
  else
    let decimal : Decimal := ⟨digitsValue 0 (whole ++ places), exponent.getD 0 - places.length⟩
    match decimal.toBinary64 negative with
    | .finite sign magnitude => float (.finite sign magnitude)
    | _ => unreadable

/-- The digits after a point, if a point comes next; a point needs digits. -/
def readPlaces : List Char → Option (List Char × List Char)
  | '.' :: rest =>
    let (places, rest) := splitDigits rest
    if places = [] then none else some (places, rest)
  | rest => some ([], rest)

/-- The exponent, if one comes next; its mark needs digits. -/
def readExponent : List Char → Option (Option Int × List Char)
  | [] => some (none, [])
  | mark :: rest =>
    if mark = 'e' ∨ mark = 'E' then
      let (negative, rest) := Numeral.splitSign rest
      let (digits, rest) := splitDigits rest
      let size : Int := digitsValue 0 digits
      if digits = [] then none else some (some (if negative then -size else size), rest)
    else some (none, mark :: rest)

def readNumber (negative : Bool) (text : List Char) : Option (Tree × List Char) := do
  let (whole, rest) := splitDigits text
  if whole = [] ∨ (whole.head? = some '0' ∧ whole.length ≠ 1) then none
  let (places, rest) ← readPlaces rest
  let (exponent, rest) ← readExponent rest
  return (ofLiteral negative whole places exponent, rest)

/-- A container that was opened with so many more allowed. -/
def nested (allowed : Nat) (container : Tree) : Tree :=
  if allowed = 0 then unreadable else container

/-- An object, unless one of its keys denotes no text. -/
def ofUnitMembers (members : List (List Nat × Tree)) : Tree :=
  match members.mapM fun (units, value) => (textOfUnits? units).map (·, value) with
  | some members => object members
  | none => unreadable

mutual

/-- The value a text starts with, and the text after it. -/
def readValue (fuel allowed : Nat) (text : List Char) : Option (Tree × List Char) :=
  match fuel with
  | 0 => none
  | fuel + 1 =>
    match text with
    | 'n' :: 'u' :: 'l' :: 'l' :: rest => some (null, rest)
    | 't' :: 'r' :: 'u' :: 'e' :: rest => some (bool true, rest)
    | 'f' :: 'a' :: 'l' :: 's' :: 'e' :: rest => some (bool false, rest)
    | '"' :: rest => do
      let (units, rest) ← readUnits rest
      return (((textOfUnits? units).map string).getD unreadable, rest)
    | '[' :: rest => do
      let (items, rest) ← readItems fuel (allowed - 1) (skipSpace rest)
      return (nested allowed (array items), rest)
    | '{' :: rest => do
      let (members, rest) ← readMembers fuel (allowed - 1) (skipSpace rest)
      return (nested allowed (ofUnitMembers members), rest)
    | '-' :: rest => readNumber true rest
    | text => readNumber false text
termination_by structural fuel

/-- The items up to the closing bracket. -/
def readItems (fuel allowed : Nat) (text : List Char) : Option (List Tree × List Char) :=
  match fuel, text with
  | 0, _ => none
  | _ + 1, ']' :: rest => some ([], rest)
  | fuel + 1, text => do
    let (item, rest) ← readValue fuel allowed text
    let (items, rest) ← readMoreItems fuel allowed (skipSpace rest)
    return (item :: items, rest)
termination_by structural fuel

/-- The items after one item: none, or a comma and at least one more. -/
def readMoreItems (fuel allowed : Nat) (text : List Char) : Option (List Tree × List Char) :=
  match fuel, text with
  | fuel + 1, ',' :: rest => do
    let (item, rest) ← readValue fuel allowed (skipSpace rest)
    let (items, rest) ← readMoreItems fuel allowed (skipSpace rest)
    return (item :: items, rest)
  | _ + 1, ']' :: rest => some ([], rest)
  | _, _ => none
termination_by structural fuel

/-- A key, its colon and its value. -/
def readMember (fuel allowed : Nat) (text : List Char) :
    Option ((List Nat × Tree) × List Char) :=
  match fuel, text with
  | fuel + 1, '"' :: rest => do
    let (units, rest) ← readUnits rest
    match skipSpace rest with
    | ':' :: rest =>
      let (value, rest) ← readValue fuel allowed (skipSpace rest)
      return ((units, value), rest)
    | _ => none
  | _, _ => none
termination_by structural fuel

/-- The members up to the closing brace. -/
def readMembers (fuel allowed : Nat) (text : List Char) :
    Option (List (List Nat × Tree) × List Char) :=
  match fuel, text with
  | 0, _ => none
  | _ + 1, '}' :: rest => some ([], rest)
  | fuel + 1, text => do
    let (entry, rest) ← readMember fuel allowed text
    let (members, rest) ← readMoreMembers fuel allowed (skipSpace rest)
    return (entry :: members, rest)
termination_by structural fuel

/-- The members after one member: none, or a comma and at least one more. -/
def readMoreMembers (fuel allowed : Nat) (text : List Char) :
    Option (List (List Nat × Tree) × List Char) :=
  match fuel, text with
  | fuel + 1, ',' :: rest => do
    let (entry, rest) ← readMember fuel allowed (skipSpace rest)
    let (members, rest) ← readMoreMembers fuel allowed (skipSpace rest)
    return (entry :: members, rest)
  | _ + 1, '}' :: rest => some ([], rest)
  | _, _ => none
termination_by structural fuel

end

/-- The tree of a whole text. At most three calls open on one character bound the fuel. -/
def read? (text : String) : Option Tree :=
  let characters := text.toList
  match readValue (3 * characters.length + 3) depthLimit (skipSpace characters) with
  | some (tree, rest) => if skipSpace rest = [] then some tree else none
  | none => none

end SignalGraph.Tree
