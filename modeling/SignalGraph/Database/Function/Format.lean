import SignalGraph.Database.Function.Text

/-! Values filled into a text with directives.

A directive begins with a percent sign. Flags, a width and a precision may stand before its letter.
A directive that is not known ends the text.
-/

set_option autoImplicit false

namespace SignalGraph.Database

/-- What stands between the percent sign and the letter of a directive. -/
structure Directive where
  left : Bool := false
  zeros : Bool := false
  complete : Bool := false
  precise : Bool := false
  grouped : Bool := false
  /-- What stands in front of a number that is not negative. -/
  sign : Option Char := none
  width : Nat := 0
  precision : Option Nat := none

namespace Directive

/-- Widths and precisions that are values are cut to a short word. -/
def shortWord (value : Datum) : Int := value.toInt.bmod (power 2 32)

/-- Digits count within a short word without its sign. -/
def written (digits : List Char) : Nat := digitsValue 0 digits % power 2 31

/-- Read a directive, its letter and the values it takes before its own. -/
def read? : Nat → Directive → List Char → List Datum →
    Option (Directive × Char × List Char × List Datum)
  | fuel + 1, directive, c :: rest, values =>
    let finish (directive : Directive) (text : List Char) (values : List Datum) :
        Option (Directive × Char × List Char × List Datum) :=
      match text with
      | '.' :: _ | 'l' :: _ => read? fuel directive text values
      | letter :: rest => some (directive, letter, rest, values)
      | [] => none
    match c with
    | '-' => read? fuel { directive with left := true } rest values
    | '+' => read? fuel { directive with sign := some '+' } rest values
    | ' ' => read? fuel { directive with sign := some ' ' } rest values
    | '#' => read? fuel { directive with complete := true } rest values
    | '!' => read? fuel { directive with precise := true } rest values
    | '0' => read? fuel { directive with zeros := true } rest values
    | ',' => read? fuel { directive with grouped := true } rest values
    | 'l' =>
      match (match rest with
        | 'l' :: rest => rest
        | rest => rest) with
      | letter :: rest => some (directive, letter, rest, values)
      | [] => none
    | '*' =>
      let width := shortWord (values.headD .null)
      let directive :=
        if 0 ≤ width then { directive with width := width.toNat }
        else { directive with left := true, width := if -width < (power 2 31 : Int) then width.natAbs else 0 }
      finish directive rest (values.drop 1)
    | '.' =>
      match rest with
      | '*' :: rest =>
        let precision := shortWord (values.headD .null)
        let precision := if -precision = (power 2 31 : Int) then none else some precision.natAbs
        let directive := { directive with precision }
        match rest with
        | 'l' :: _ => read? fuel directive rest (values.drop 1)
        | letter :: rest => some (directive, letter, rest, values.drop 1)
        | [] => none
      | rest =>
        let (digits, rest) := splitDigits rest
        let directive := { directive with precision := some (written digits) }
        match rest with
        | 'l' :: _ => read? fuel directive rest values
        | letter :: rest => some (directive, letter, rest, values)
        | [] => none
    | c =>
      if c.isDigit then
        let (digits, rest) := splitDigits (c :: rest)
        finish { directive with width := written digits } rest values
      else some (directive, c, rest, values)
  | _, _, _, _ => none

/-- Fill up to the width. It counts bytes, or with all precision characters. -/
def pad (directive : Directive) (text : List Char) : List Char :=
  let bytes := Bytes.ofChars text
  let size := if directive.precise then
      (bytes.filter fun byte => !Bytes.isContinuation byte).length
    else bytes.length
  let blanks := List.replicate (directive.width - size) ' '
  if directive.left then text ++ blanks else blanks ++ text

/-- The part of a text that the precision leaves. It counts bytes, or characters. -/
def limit (directive : Directive) (text : List Char) : List Char :=
  match directive.precision with
  | none => text
  | some count =>
    let bytes := Bytes.ofChars text
    if directive.precise then
      (Bytes.toText ((Bytes.glyphs bytes).take count).flatten).toList
    else if bytes.length ≤ count then text
    else (Bytes.toText (bytes.take count)).toList

/-- A whole number in a base, with zeros up to the precision, and what may stand behind it. -/
def whole (directive : Directive) (base size : Nat) (sign : List Char) (tail : List Char) :
    List Char :=
  let room := directive.width - sign.length
  let places := directive.precision.getD 0
  let places := if directive.zeros then max places room else places
  let digits := Nat.toDigits base size ++ tail
  List.replicate (places - digits.length) '0' ++ digits

def signed (directive : Directive) (n : Int) : List Char :=
  if n < 0 then ['-'] else directive.sign.toList

/-- The ending of an ordinal number. -/
def ordinalEnding (n : Nat) : List Char :=
  if n / 10 % 10 = 1 then ['t', 'h']
  else
    match n % 10 with
    | 1 => ['s', 't']
    | 2 => ['n', 'd']
    | 3 => ['r', 'd']
    | _ => ['t', 'h']

/-- The bits of an integer in a base that is a power of two. -/
def bits (directive : Directive) (base : Nat) (capital : Bool) (front : List Char) (n : Int) :
    List Char :=
  let size := FixedWidth.unsigned 64 n
  let digits := directive.whole base size [] []
  let digits := if capital then digits.map Char.toUpper else digits
  if directive.complete ∧ size ≠ 0 then front ++ digits else digits

def real (directive : Directive) (form : RealForm) (capital : Bool) (x : Binary64) : List Char :=
  let style : RealStyle :=
    { form, places := directive.precision.getD 6, complete := directive.complete
      precise := directive.precise, grouped := directive.grouped, capital, sign := directive.sign
      noInfinity := directive.zeros }
  let (sign, body) := style.write x
  if directive.zeros ∧ ¬directive.left then
    sign ++ List.replicate (directive.width - sign.length - body.length) '0' ++ body
  else sign ++ body

/-- A character that is doubled inside of quotes. -/
def doubled (mark : Char) (text : List Char) : List Char :=
  text.flatMap fun c => if c = mark then [c, c] else [c]

/-- Control characters and backslashes as escapes, and quotes doubled. -/
def escaped (text : List Char) : List Char :=
  text.flatMap fun c =>
    if c = '\'' ∨ c = '\\' then [c, c]
    else if c.toNat < 32 then
      ['\\', 'u', '0', '0', Nat.digitChar (c.toNat / 16), Nat.digitChar (c.toNat % 16)]
    else [c]

def hasControl (text : List Char) : Bool := text.any fun c => c.toNat < 32

/-- A text in quotes, with its control characters as escapes if that is wanted. -/
def quoted (withEscapes : Bool) (text : List Char) : List Char :=
  if withEscapes && hasControl text then "unistr('".toList ++ escaped text ++ ['\'', ')']
  else '\'' :: doubled '\'' text ++ ['\'']

/-- What a directive makes of a value; nothing if its letter is not known. -/
def converted? (directive : Directive) (letter : Char) (value : Datum) : Option (List Char) :=
  let text := TextFunction.characters value.asText
  let n := value.toInt
  let ofNumber (digits : List Char) : List Char := directive.pad digits
  let grouped (digits : List Char) : List Char :=
    if directive.grouped then RealStyle.group digits else digits
  match letter with
  | 'd' | 'i' =>
    let sign := directive.signed n
    some (ofNumber (sign ++ grouped (directive.whole 10 n.natAbs sign [])))
  | 'u' => some (ofNumber (grouped (directive.whole 10 (FixedWidth.unsigned 64 n) [] [])))
  | 'r' =>
    let sign := directive.signed n
    some (ofNumber (sign ++ directive.whole 10 n.natAbs sign (ordinalEnding n.natAbs)))
  | 'x' => some (ofNumber (directive.bits 16 false ['0', 'x'] n))
  | 'X' => some (ofNumber (directive.bits 16 true ['0', 'X'] n))
  | 'p' => some (ofNumber (directive.bits 16 true ['0', 'x'] n))
  | 'o' => some (ofNumber (directive.bits 8 false ['0'] n))
  | 'f' => some (ofNumber (directive.real .fixed false value.toReal))
  | 'e' => some (ofNumber (directive.real .scientific false value.toReal))
  | 'E' => some (ofNumber (directive.real .scientific true value.toReal))
  | 'g' => some (ofNumber (directive.real .general false value.toReal))
  | 'G' => some (ofNumber (directive.real .general true value.toReal))
  | 'c' =>
    let c := match Bytes.glyphs (Bytes.ofChars text) with
      | glyph :: _ => (Bytes.toText (glyph.take 4)).toList
      | [] => ['\x00']
    some ({ directive with precise := true }.pad
      (List.replicate (max 1 (directive.precision.getD 1)) c).flatten)
  | 's' | 'z' => some (directive.pad (directive.limit text))
  | 'q' =>
    let text := directive.limit (if value.isNull then "(NULL)".toList else text)
    some (directive.pad (if directive.complete then escaped text else doubled '\'' text))
  | 'Q' =>
    some (directive.pad (if value.isNull then directive.limit "NULL".toList
      else quoted directive.complete (directive.limit text)))
  | 'w' =>
    some (directive.pad
      (doubled '"' (directive.limit (if value.isNull then "(NULL)".toList else text))))
  | _ => none

/-- Numbers that no value can have as many characters of. -/
def isTooLong (directive : Directive) (letter : Char) : Bool :=
  let most := 1000000000
  most ≤ directive.width || (letter ∉ ['s', 'z', 'q', 'Q', 'w'] && most ≤ directive.precision.getD 0)

/-- Fill values into a text with directives; nothing if a value would get too long, or if the text
ends before anything is written. -/
def fill : Nat → Bool → List Char → List Char → List Datum → Option (List Char)
  | fuel + 1, begun, done, '%' :: rest, values =>
    let stop := if begun then some done.reverse else none
    if rest = [] then some ('%' :: done).reverse
    else
      match read? (rest.length + 1) {} rest values with
      | none => stop
      | some (directive, letter, rest, values) =>
        let write (text : List Char) (values : List Datum) : Option (List Char) :=
          fill fuel true (text.reverse ++ done) rest values
        if directive.isTooLong letter then none
        else if letter = '%' then write (directive.pad ['%']) values
        else if letter = 'n' then write [] values
        else
          match directive.converted? letter (values.headD .null) with
          | some text => write text (values.drop 1)
          | none => stop
  | fuel + 1, _, done, c :: rest, values => fill fuel true (c :: done) rest values
  | _, begun, done, _, _ => if begun then some done.reverse else none

/-- The pattern with the values in the places of its directives. -/
def format (pattern : Datum) (values : List Datum) : Datum :=
  if pattern.isNull then .null
  else
    let pattern := TextFunction.characters pattern.asText
    match fill (pattern.length + 1) false [] pattern values with
    | some text => .text (Bytes.settle text)
    | none => .null

end Directive

end SignalGraph.Database
