import SignalGraph.Database.Fault
import SignalGraph.Database.Number
import SignalGraph.Database.Record

/-! Functions on texts and bytes: parts, cases, patterns and spellings. -/

set_option autoImplicit false

namespace SignalGraph.Database.TextFunction

/-- The characters of a text up to a zero character. -/
def characters (text : String) : List Char := text.toList.takeWhile (· ≠ '\x00')

/-- The characters of a value as they are counted, up to a zero byte. -/
def glyphs (value : Datum) : List Bytes.Glyph := Bytes.glyphs (value.bytes.takeWhile (· ≠ 0))

def codes (value : Datum) : List Nat := (glyphs value).map Bytes.Glyph.code

def ofGlyphs (glyphs : List Bytes.Glyph) : Datum := .text (Bytes.toText glyphs.flatten)

def length : Datum → Datum
  | .null => .null
  | .blob bytes => .integer bytes.length
  | value => .integer (glyphs value).length

def byteLength : Datum → Datum
  | .null => .null
  | value => .integer value.bytes.length

def onText (change : String → String) : Datum → Datum
  | .null => .null
  | value => .text (change value.asText)

/-- Where a part begins and how long it is. Places count from one, or backwards from the end; a
length below zero counts what stands before the place. -/
def span (size : Nat) (place : Int) (length : Option Int) : Nat × Nat :=
  let wanted : Int := (length.map fun n => (n.natAbs : Int)).getD (size + place.natAbs + 1)
  let (start, wanted) : Int × Int :=
    if place < 0 then
      let start := place + size
      if start < 0 then (0, max 0 (wanted + start)) else (start, wanted)
    else if 0 < place then (place - 1, wanted)
    else (0, if 0 < wanted then wanted - 1 else wanted)
  if (length.map fun n => decide (n < 0)).getD false then
    let first := start - wanted
    if first < 0 then (0, (wanted + first).toNat) else (first.toNat, wanted.toNat)
  else (start.toNat, wanted.toNat)

def part (value place : Datum) (length : Option Datum) : Datum :=
  if value.isNull ∨ place.isNull ∨ (length.map Datum.isNull).getD false then .null
  else
    match value with
    | .blob [] => .null
    | .blob bytes =>
      let (start, count) := span bytes.length place.toInt (length.map Datum.toInt)
      .blob ((bytes.drop start).take count)
    | value =>
      let text := glyphs value
      let (start, count) := span text.length place.toInt (length.map Datum.toInt)
      ofGlyphs ((text.drop start).take count)

/-- The place where bytes stand in others, counted from one; zero if nowhere. Places are those of
bytes, or of characters. -/
def placeOf (ofCharacters : Bool) (needle : List UInt8) : Nat → Nat → List UInt8 → Nat
  | 0, _, _ => 0
  | fuel + 1, place, bytes =>
    if needle.isPrefixOf bytes then place
    else
      match bytes with
      | [] => 0
      | _ :: rest =>
        let rest := if ofCharacters then rest.dropWhile Bytes.isContinuation else rest
        placeOf ofCharacters needle fuel (place + 1) rest

def find (value needle : Datum) : Datum :=
  let place (ofCharacters : Bool) : Datum :=
    .integer (placeOf ofCharacters needle.bytes (value.bytes.length + 1) 1 value.bytes)
  match value, needle with
  | .null, _ | _, .null => .null
  | .blob _, .blob _ => place false
  | _, _ => place true

def replaceAll (needle by_ : List UInt8) : Nat → List UInt8 → List UInt8
  | _, [] => []
  | 0, text => text
  | fuel + 1, c :: rest =>
    if needle.isPrefixOf (c :: rest) then
      by_ ++ replaceAll needle by_ fuel ((c :: rest).drop needle.length)
    else c :: replaceAll needle by_ fuel rest

def replace (value needle by_ : Datum) : Datum :=
  if value.isNull ∨ needle.isNull ∨ by_.isNull then .null
  else
    let text := value.bytes
    if needle.bytes = [] then .text value.asText
    else .text (Bytes.toText (replaceAll needle.bytes by_.bytes (text.length + 1) text))

/-- Bytes without the members of a set that they begin with. -/
def dropMembers (set_ : List (List UInt8)) : Nat → List UInt8 → List UInt8
  | 0, bytes => bytes
  | fuel + 1, bytes =>
    match set_.find? fun member => member.isPrefixOf bytes with
    | some member => dropMembers set_ fuel (bytes.drop member.length)
    | none => bytes

/-- Cut characters of a set off the ends of a text. -/
def trim (front back : Bool) (value : Datum) (set_ : Option Datum) : Datum :=
  if value.isNull ∨ (set_.map Datum.isNull).getD false then .null
  else
    let chosen := (set_.map glyphs).getD [[32]]
    let bytes := value.bytes
    let bytes := if front then dropMembers chosen bytes.length bytes else bytes
    let bytes := if back then
        (dropMembers (chosen.map List.reverse) bytes.length bytes.reverse).reverse
      else bytes
    .text (Bytes.toText bytes)

def hexDigits (bytes : List UInt8) : String :=
  String.ofList (bytes.flatMap fun byte =>
    [(Nat.digitChar (byte.toNat / 16)).toUpper, (Nat.digitChar (byte.toNat % 16)).toUpper])

/-- A real as a statement would have it: so that it reads back, with all digits if it has to be. -/
def quoteReal (x : Binary64) : String :=
  let short := RealStyle.finite.text x
  if (NumericFront.ofText short).toReal == x then short else RealStyle.full.text x

def ofCodes (codes : List Datum) : Datum :=
  .text (Bytes.toText (codes.flatMap fun code =>
    let n := code.toInt
    Bytes.ofCode (if n < 0 ∨ 0x10FFFF < n then 0xFFFD else n.toNat)))

def codeOf : Datum → Datum
  | .null => .null
  | value => ((codes value).head?.map fun code => Datum.integer code).getD .null

/-- What comes of a text beside a pattern. After a run that any text may take, an end of the text
settles that no longer run helps. -/
inductive Fit where
  | fits
  | differs
  | never
  deriving DecidableEq

/-- Try a text without more and more of its front. -/
def Fit.seek (try_ : List Nat → Fit) : List Nat → Fit
  | [] => if try_ [] = .fits then .fits else .never
  | c :: rest =>
    match try_ (c :: rest) with
    | .differs => seek try_ rest
    | found => found

/-- The code of a letter without its case. -/
def lowered (code : Nat) : Nat := if 65 ≤ code ∧ code ≤ 90 then code + 32 else code

/-- A pattern of plain characters, one that stands for any character and one for any run. The
escape takes the meaning from what follows it. -/
def likeFit (escape : Option Nat) : List Nat → List Nat → Fit
  | [], text => if text.isEmpty then .fits else .differs
  | p :: pattern, text =>
    if some p = escape then
      match pattern, text with
      | q :: pattern, c :: text =>
        if lowered q == lowered c then likeFit escape pattern text else .differs
      | _, _ => .differs
    else if p = '%'.toNat then
      if pattern = [] then .fits else Fit.seek (fun text => likeFit escape pattern text) text
    else
      match text with
      | c :: text =>
        if p == '_'.toNat || lowered p == lowered c then likeFit escape pattern text else .differs
      | [] => .differs
termination_by pattern => pattern.length

/-- Whether a character is in a set as a pattern writes it, and what follows the set. A dash behind
a character spans the range up to the next one, unless the set ends there. -/
def inSet (c : Nat) : Bool → Option Nat → List Nat → Option (Bool × List Nat)
  | _, _, [] => none
  | found, before, a :: rest =>
    if a = ']'.toNat then some (found, rest)
    else
      match before, rest with
      | some low, high :: rest =>
        if a = '-'.toNat ∧ high ≠ ']'.toNat then inSet c (found || (low ≤ c && c ≤ high)) none rest
        else inSet c (found || c == a) (some a) (high :: rest)
      | _, rest => inSet c (found || c == a) (some a) rest

/-- A pattern where a star stands for any run, a question mark for any character and brackets for
one of a set. -/
def globFit : Nat → List Nat → List Nat → Fit
  | 0, _, _ => .differs
  | _ + 1, [], text => if text.isEmpty then .fits else .differs
  | fuel + 1, p :: pattern, text =>
    if p = '*'.toNat then
      if pattern = [] then .fits else Fit.seek (globFit fuel pattern) text
    else
      match text with
      | [] => .differs
      | c :: text =>
        if p = '?'.toNat then globFit fuel pattern text
        else if p = '['.toNat then
          let negative := pattern.head? = some '^'.toNat
          let set_ := if negative then pattern.drop 1 else pattern
          let found := if set_.head? = some ']'.toNat then
              inSet c (c == ']'.toNat) none (set_.drop 1)
            else inSet c false none set_
          match found with
          | some (found, rest) => if found != negative then globFit fuel rest text else .differs
          | none => .differs
        else if p == c then globFit fuel pattern text
        else .differs

/-- The most bytes of a pattern. -/
def patternLimit : Nat := 50000

def checkPattern (pattern : Datum) : Except StatementFault Unit :=
  if patternLimit < pattern.bytes.length then
    .error (.domain "LIKE or GLOB pattern too complex")
  else .ok ()

def like (pattern value : Datum) (escape : Option Datum) : Except StatementFault Datum := do
  checkPattern pattern
  let escape ← match escape with
    | none => pure (some none)
    | some .null => pure none
    | some datum =>
      match codes datum with
      | [c] => pure (some (some c))
      | _ => throw (.domain "ESCAPE expression must be a single character")
  match escape with
  | none => return .null
  | some escape =>
    if pattern.isNull ∨ value.isNull then return .null
    else
      return .ofBool (likeFit escape (codes pattern) (codes value) = .fits)

def glob (pattern value : Datum) : Except StatementFault Datum := do
  checkPattern pattern
  if pattern.isNull ∨ value.isNull then return .null
  else
    let pattern := codes pattern
    return .ofBool (globFit (pattern.length + 1) pattern (codes value) = .fits)

def hexDigit? (c : Char) : Option Nat :=
  if c.isDigit then some (c.toNat - '0'.toNat)
  else if 'a' ≤ c.toLower ∧ c.toLower ≤ 'f' then some (c.toLower.toNat - 'a'.toNat + 10)
  else none

/-- The bytes of pairs of digits, between which some characters may stand. -/
def unhex (between : List Char) : List Char → Option (List UInt8)
  | [] => some []
  | a :: rest =>
    match hexDigit? a, rest with
    | some high, b :: rest => do
      return UInt8.ofNat (high * 16 + (← hexDigit? b)) :: (← unhex between rest)
    | some _, [] => none
    | none, rest => if between.contains a then unhex between rest else none

/-- The value of so many digits in front, and what follows them. -/
def hexFront? (count : Nat) (text : List Char) : Option (Nat × List Char) := do
  let digits ← (text.take count).mapM hexDigit?
  if digits.length = count then
    return (digits.foldl (fun value digit => value * 16 + digit) 0, text.drop count)
  else none

/-- A text with its escapes replaced by the characters they stand for; nothing if one of them is
not complete. -/
def unescape? : Nat → List Char → Option (List UInt8)
  | fuel + 1, '\\' :: rest =>
    let code (count : Nat) (text : List Char) : Option (List UInt8) := do
      let (code, rest) ← hexFront? count text
      return Bytes.ofCode code ++ (← unescape? fuel rest)
    match rest with
    | '\\' :: rest => do return Bytes.ofCode '\\'.toNat ++ (← unescape? fuel rest)
    | '+' :: rest => code 6 rest
    | 'u' :: rest => code 4 rest
    | 'U' :: rest => code 8 rest
    | rest => code 4 rest
  | fuel + 1, c :: rest => do return Bytes.ofChars [c] ++ (← unescape? fuel rest)
  | _, _ => some []

def unistr (value : Datum) : Except StatementFault Datum :=
  if value.isNull then .ok .null
  else
    let text := value.asText.toList
    match unescape? (text.length + 1) text with
    | some bytes => .ok (.text (Bytes.toText bytes))
    | none => .error (.domain "invalid Unicode escape")

/-- The groups of letters that sound alike; a letter without a group parts others. -/
def soundGroup (c : Char) : Nat :=
  let groups := [['b', 'f', 'p', 'v'], ['c', 'g', 'j', 'k', 'q', 's', 'x', 'z'], ['d', 't'], ['l'],
    ['m', 'n'], ['r']]
  ((groups.findIdx? fun group => group.contains c.toLower).map (· + 1)).getD 0

def sounds : Nat → List Char → List Nat
  | _, [] => []
  | before, c :: rest =>
    let group := soundGroup c
    if group = 0 ∨ group = before then sounds group rest else group :: sounds group rest

/-- The first letter of a text and the sounds of what follows. -/
def soundex (value : Datum) : Datum :=
  let text := ((value.bytes.takeWhile (· ≠ 0)).map fun byte =>
    if byte < 128 then (Char.ofNat byte.toNat, true) else (Char.ofNat (byte.toNat % 128), false))
  match text.dropWhile fun c => !(c.2 && c.1.isAlpha) with
  | [] => .text "?000"
  | (first, _) :: rest =>
    let codes := (sounds (soundGroup first) (rest.map fun c => c.1)).take 3
    .text (String.ofList (first.toUpper :: (codes.map Nat.digitChar ++
      List.replicate (3 - codes.length) '0')))

end SignalGraph.Database.TextFunction
