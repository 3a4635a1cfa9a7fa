/-! Texts as bytes, in one to four bytes a character.

A byte that belongs to no character stands in a text as a character of its own, from a range that
is kept for it, and a character of that range stands as its bytes. So every sequence of bytes has
one text, which gives them back. Where a text is shown, each broken character becomes one mark.
-/

set_option autoImplicit false

namespace SignalGraph.Bytes

/-- The character that stands for a byte outside of characters. -/
def stray (byte : UInt8) : Char := Char.ofNat (0x10FF00 + byte.toNat)

def isStray (c : Char) : Bool := 0x10FF80 ≤ c.toNat

/-- The bytes of a code, whether it is one of a character or not. -/
def ofCode (code : Nat) : List UInt8 :=
  let tail (shift : Nat) : UInt8 := UInt8.ofNat (128 + code / shift % 64)
  if code < 0x80 then [UInt8.ofNat code]
  else if code < 0x800 then [UInt8.ofNat (192 + code / 64 % 32), tail 1]
  else if code < 0x10000 then [UInt8.ofNat (224 + code / 4096 % 16), tail 64, tail 1]
  else [UInt8.ofNat (240 + code / 262144 % 8), tail 4096, tail 64, tail 1]

/-- The bytes that a character of a text stands for. -/
def ofChar (c : Char) : List UInt8 := if isStray c then [UInt8.ofNat c.toNat] else ofCode c.toNat

def ofChars (text : List Char) : List UInt8 := text.flatMap ofChar

/-- A character of which some bytes are read. -/
structure Pending where
  /-- The last one first. -/
  bytes : List UInt8
  value : Nat
  /-- How many bytes are missing. -/
  missing : Nat
  /-- What the next byte may be. -/
  low : UInt8
  high : UInt8

/-- What a byte begins that is not a character by itself. -/
def Pending.begin? (byte : UInt8) : Option Pending :=
  let value := byte.toNat
  if 0xC2 ≤ byte ∧ byte < 0xE0 then some ⟨[byte], value - 0xC0, 1, 0x80, 0xBF⟩
  else if 0xE0 ≤ byte ∧ byte < 0xF0 then
    some ⟨[byte], value - 0xE0, 2, if byte = 0xE0 then 0xA0 else 0x80,
      if byte = 0xED then 0x9F else 0xBF⟩
  else if 0xF0 ≤ byte ∧ byte < 0xF5 then
    some ⟨[byte], value - 0xF0, 3, if byte = 0xF0 then 0x90 else 0x80,
      if byte = 0xF4 then 0x8F else 0xBF⟩
  else none

/-- How whole characters and broken ones are put. -/
structure Spelling where
  whole : Char → List Char
  broken : List UInt8 → List Char

/-- The characters so far, the last one first, and one that is not complete. -/
structure Reading where
  done : List Char
  pending : Option Pending

namespace Reading

/-- Go on with a byte that begins something. -/
def start (spelling : Spelling) (done : List Char) (byte : UInt8) : Reading :=
  if byte < 0x80 then ⟨Char.ofNat byte.toNat :: done, none⟩
  else
    match Pending.begin? byte with
    | some pending => ⟨done, some pending⟩
    | none => ⟨(spelling.broken [byte]).reverse ++ done, none⟩

def settle (spelling : Spelling) (reading : Reading) : List Char :=
  match reading.pending with
  | some pending => (spelling.broken pending.bytes.reverse).reverse ++ reading.done
  | none => reading.done

def step (spelling : Spelling) (reading : Reading) (byte : UInt8) : Reading :=
  match reading.pending with
  | none => start spelling reading.done byte
  | some pending =>
    if pending.low ≤ byte ∧ byte ≤ pending.high then
      let value := pending.value * 64 + byte.toNat % 64
      if pending.missing ≤ 1 then
        ⟨(spelling.whole (Char.ofNat value)).reverse ++ reading.done, none⟩
      else ⟨reading.done, some ⟨byte :: pending.bytes, value, pending.missing - 1, 0x80, 0xBF⟩⟩
    else start spelling (reading.settle spelling) byte

end Reading

/-- The characters of bytes. -/
def charsWith (spelling : Spelling) (bytes : List UInt8) : List Char :=
  ((bytes.foldl (Reading.step spelling) ⟨[], none⟩).settle spelling).reverse

/-- A character as it stands in a text. -/
def held (c : Char) : List Char := if isStray c then (ofCode c.toNat).map stray else [c]

/-- The text of bytes. -/
def toText (bytes : List UInt8) : String :=
  String.ofList (charsWith ⟨held, fun broken => broken.map stray⟩ bytes)

def isBroken (text : String) : Bool := text.toList.any isStray

/-- The bytes of a text. -/
def ofText (text : String) : List UInt8 :=
  if isBroken text then ofChars text.toList else text.toUTF8.data.toList

/-- Characters as a text, after some that stood apart have come together. -/
def settle (text : List Char) : String :=
  if text.any isStray then toText (ofChars text) else String.ofList text

/-- The text of characters that all stand for themselves. -/
def ofPlain (text : String) : String :=
  if isBroken text then String.ofList (text.toList.flatMap held) else text

/-- A text as it is shown, with a mark for each broken character. -/
def shown (text : String) : String :=
  if isBroken text then
    String.ofList (charsWith ⟨fun c => [c], fun _ => ['\uFFFD']⟩ (ofText text))
  else text

/-- The byte goes on with a character that another one has begun. -/
def isContinuation (byte : UInt8) : Bool := 0x80 ≤ byte && byte < 0xC0

/-- A character as it is counted: a byte, or one that begins something with all that go on. -/
abbrev Glyph := List UInt8

/-- The characters of bytes as they are counted. -/
def glyphs (bytes : List UInt8) : List Glyph :=
  let found := bytes.foldl (fun (done : List Glyph) byte =>
    match done with
    | current :: before =>
      if isContinuation byte && current.getLast?.any (0xC0 ≤ ·) then (byte :: current) :: before
      else [byte] :: done
    | [] => [[byte]]) []
  (found.map List.reverse).reverse

/-- What a byte that begins a character adds to its code. -/
def leadingCode (byte : UInt8) : Nat :=
  let n := byte.toNat
  if n < 0xE0 then n % 32 else if n < 0xF0 then n % 16 else if n < 0xF8 then n % 8
  else if n < 0xFC then n % 4 else n % 2

/-- The code of a character as it is counted. One that stands for no character has the code of the
mark for that; a byte by itself is its own code. -/
def Glyph.code : Glyph → Nat
  | [] => 0
  | byte :: rest =>
    if byte < 0xC0 then byte.toNat
    else
      let start := if byte < 0xFE then leadingCode byte else 0
      let code := rest.foldl (fun code next => (code * 64 + next.toNat % 64) % 4294967296) start
      if code < 0x80 ∨ (0xD800 ≤ code ∧ code < 0xE000) ∨ code = 0xFFFE ∨ code = 0xFFFF then 0xFFFD
      else code

example : ofText (toText [0x61, 0xC3, 0x28, 0xE2, 0x82]) = [0x61, 0xC3, 0x28, 0xE2, 0x82] := by
  decide +kernel

example : shown (toText [0x61, 0xC3, 0x28, 0xE2, 0x82]) = "a\uFFFD(\uFFFD" := by decide +kernel

end SignalGraph.Bytes
