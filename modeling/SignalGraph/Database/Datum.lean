import SignalGraph.Database.RealText
import SignalGraph.Text.Bytes

/-! Values in the rows of a database: their order, and how numbers and texts turn into each
other.

A value has a storage class of its own. A column has a leaning towards a class and converts what
it is given where nothing gets lost.
-/

set_option autoImplicit false

namespace SignalGraph.Database

inductive Datum where
  | null
  | integer (value : Int)
  | real (value : Binary64)
  | text (value : String)
  | blob (bytes : List UInt8)
  deriving DecidableEq

instance : Inhabited Datum := ⟨.null⟩

/-- What a column leans towards. -/
inductive Leaning where
  | blob
  | text
  | numeric
  | integer
  | real
  deriving DecidableEq

def Leaning.isNumeric : Leaning → Bool
  | blob | text => false
  | numeric | integer | real => true

/-- How texts are compared: as they are, without regard to the case of ASCII letters, or without
the spaces at the end. -/
inductive Collation where
  | binary
  | caseless
  | trimmed
  deriving DecidableEq

namespace Collation

def ofName? (name : String) : Option Collation :=
  let name := name.toUpper
  if name = "BINARY" then some binary
  else if name = "NOCASE" then some caseless
  else if name = "RTRIM" then some trimmed
  else none

def dropTrailingSpaces (text : String) : String :=
  String.ofList (text.toList.reverse.dropWhile (· = ' ')).reverse

/-- What of a text counts. -/
def key (collation : Collation) (text : String) : String :=
  match collation with
  | binary => text
  | caseless => String.ofList (text.toList.map Char.toLower)
  | trimmed => dropTrailingSpaces text

end Collation

/-- Blanks between the parts of a number or a statement. -/
def isSeparator (c : Char) : Bool :=
  c == ' ' || c == '\t' || c == '\n' || c == '\x0c' || c == '\r' || c == '\x0b'

/-- What the front of a text says if it is read as a number. -/
structure NumericFront where
  negative : Bool
  decimal : Decimal
  /-- The digits are all there is, without point and exponent. -/
  whole : Bool
  /-- There are digits, and nothing but blanks after the number. -/
  complete : Bool

namespace NumericFront

/-- An exponent counts only with digits in it. -/
def exponent (text : List Char) : Int × Bool × List Char :=
  match text with
  | mark :: rest =>
    if mark = 'e' ∨ mark = 'E' then
      let (negative, digits) := Numeral.splitSign rest
      let (digits, rest) := splitDigits digits
      if digits = [] then (0, false, text)
      else
        let size : Int := digitsValue 0 digits
        (if negative then -size else size, true, rest)
    else (0, false, text)
  | [] => (0, false, [])

def ofText (text : String) : NumericFront :=
  let (negative, rest) := Numeral.splitSign (text.toList.dropWhile isSeparator)
  let (digits, rest) := splitDigits rest
  let (places, pointed, rest) := match rest with
    | '.' :: rest =>
      let (places, rest) := splitDigits rest
      (places, true, rest)
    | rest => ([], false, rest)
  let some_ := digits ≠ [] ∨ places ≠ []
  let (exponent, scaled, rest) := if some_ then exponent rest else (0, false, rest)
  { negative, decimal := ⟨digitsValue 0 (digits ++ places), exponent - places.length⟩
    whole := !pointed && !scaled, complete := some_ ∧ rest.all isSeparator }

def toReal (front : NumericFront) : Binary64 := front.decimal.toReal front.negative

def toInt (front : NumericFront) : Int :=
  if front.negative then -(front.decimal.digits : Int) else front.decimal.digits

/-- The number, an integer if it is written as one and a word can hold it. -/
def toDatum (front : NumericFront) : Datum :=
  if front.whole ∧ fitsWord front.toInt then .integer front.toInt else .real front.toReal

end NumericFront

namespace Datum

def integerText (n : Int) : String := toString n

def realText (x : Binary64) : String := RealStyle.plain.text x

def ofReal (x : Binary64) : Datum := if x = .nan then .null else .real x

/-- A text from outside, where every character stands for itself. -/
def ofPlain (value : String) : Datum := .text (Bytes.ofPlain value)

def ofBool (value : Bool) : Datum := .integer (if value then 1 else 0)

def isNull : Datum → Bool
  | null => true
  | _ => false

/-- The value as a text; there is none for null. -/
def text? : Datum → Option String
  | null => none
  | integer n => some (integerText n)
  | real x => some (realText x)
  | text value => some value
  | blob bytes => some (Bytes.toText bytes)

def asText (value : Datum) : String := value.text?.getD ""

def bytes : Datum → List UInt8
  | blob bytes => bytes
  | value => Bytes.ofText value.asText

/-- The name of a storage class. -/
def storageName : Datum → String
  | null => "NULL"
  | integer _ => "INT"
  | real _ => "REAL"
  | text _ => "TEXT"
  | blob _ => "BLOB"

/-- The value as a number. A text counts as far as its front is one. -/
def toNumber : Datum → Datum
  | integer n => .integer n
  | real x => .real x
  | null => .null
  | text value => (NumericFront.ofText value).toDatum
  | blob bytes => (NumericFront.ofText (Bytes.toText bytes)).toDatum

def toReal (value : Datum) : Binary64 :=
  match value.toNumber with
  | integer n => .ofInt n
  | real x => x
  | _ => .zero false

/-- Keep an integer within the range of a word. -/
def clampWord (n : Int) : Int := max leastWord (min n greatestWord)

/-- The integer a text begins with. -/
def integerFront (text : String) : Int :=
  let (negative, rest) := Numeral.splitSign (text.toList.dropWhile isSeparator)
  let size : Int := digitsValue 0 (rest.takeWhile Char.isDigit)
  clampWord (if negative then -size else size)

/-- The value as an integer, cut off and kept within a word. -/
def toInt : Datum → Int
  | null => 0
  | integer n => n
  | real x => x.truncate
  | text value => integerFront value
  | blob bytes => integerFront (Bytes.toText bytes)

/-- Whether the value counts as true; null does not tell. -/
def truth? : Datum → Option Bool
  | null => none
  | integer n => some (n ≠ 0)
  | value => some !(value.toReal == .zero false)

/-- A real that is equal to an integer, as that integer. -/
def settle : Datum → Datum
  | real x =>
    match x.toWord? with
    | some n => .integer n
    | none => .real x
  | value => value

/-- A text that is a number through and through, as that number. -/
def ofNumericText : Datum → Datum
  | text value =>
    let front := NumericFront.ofText value
    if front.complete then front.toDatum.settle else .text value
  | value => value

def widen : Datum → Datum
  | integer n => .real (.ofInt n)
  | value => value

/-- The value as a column takes it. -/
def leanTo (value : Datum) : Leaning → Datum
  | .blob => value
  | .text =>
    match value with
    | integer n => .text (integerText n)
    | real x => .text (realText x)
    | value => value
  | .numeric | .integer => value.ofNumericText.settle
  | .real => value.ofNumericText.widen

/-- The value turned into another class, whatever gets lost. -/
def cast (value : Datum) (leaning : Leaning) : Datum :=
  if value.isNull then .null
  else
    match leaning with
    | .blob => .blob value.bytes
    | .text => .text value.asText
    | .integer => .integer value.toInt
    | .real => .real value.toReal
    | .numeric =>
      match value with
      | text _ | blob _ => value.toNumber.settle
      | value => value

/-- The place of a storage class in the order of values. -/
def rank : Datum → Nat
  | null => 0
  | integer _ | real _ => 1
  | text _ => 2
  | blob _ => 3

def compareReals (a b : Binary64) : Ordering :=
  if a.less b then .lt else if b.less a then .gt else .eq

/-- Bytes one by one; of two that agree as far as the shorter goes, the shorter comes first. -/
def compareBytes : List UInt8 → List UInt8 → Ordering
  | [], [] => .eq
  | [], _ :: _ => .lt
  | _ :: _, [] => .gt
  | a :: as, b :: bs => if a < b then .lt else if b < a then .gt else compareBytes as bs

def compareTexts (collation : Collation) (a b : String) : Ordering :=
  let a := collation.key a
  let b := collation.key b
  if a = b then .eq
  else if Bytes.isBroken a || Bytes.isBroken b then compareBytes (Bytes.ofText a) (Bytes.ofText b)
  else if a < b then .lt
  else .gt

/-- An integer beside a real, without loss. -/
def compareMixed (n : Int) (x : Binary64) : Ordering :=
  match x with
  | .finite negative magnitude =>
    compare (n * quantaPerUnit) (Binary64.signedQuanta negative magnitude)
  | .infinite negative => if negative then .gt else .lt
  | .nan => .gt

/-- The order of all values: null, numbers, texts, bytes. -/
def order (collation : Collation) (a b : Datum) : Ordering :=
  match a, b with
  | integer m, integer n => compare m n
  | integer m, real y => compareMixed m y
  | real x, integer n => (compareMixed n x).swap
  | real x, real y => compareReals x y
  | text s, text t => compareTexts collation s t
  | blob s, blob t => compareBytes s t
  | a, b => compare a.rank b.rank

/-- A text for a value that only those have too which are the same in order. -/
def form (collation : Collation) : Datum → String
  | null => "n"
  | integer n => "i" ++ toString n
  | real x =>
    match x.toWord?, x with
    | some n, _ => "i" ++ toString n
    | none, .finite negative magnitude =>
      "r" ++ toString (Binary64.signedQuanta negative magnitude)
    | none, .infinite negative => if negative then "r-" else "r+"
    | none, .nan => "n"
  | text value =>
    let key := collation.key value
    "t" ++ toString key.length ++ ":" ++ key
  | blob bytes => "b" ++ String.intercalate "." (bytes.map fun byte => toString byte.toNat)

end Datum

/-- The leaning that the written type of a column stands for. -/
def Leaning.ofType (type : String) : Leaning :=
  let type := type.toUpper
  let has (part : String) : Bool := 1 < (type.splitOn part).length
  if has "INT" then integer
  else if has "CHAR" || has "CLOB" || has "TEXT" then text
  else if has "BLOB" || type = "" then blob
  else if has "REAL" || has "FLOA" || has "DOUB" then real
  else numeric

end SignalGraph.Database
