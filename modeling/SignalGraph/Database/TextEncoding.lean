import SignalGraph.Database.Datum

/-! Texts as bytes, in the encodings that a database may have. -/

set_option autoImplicit false

namespace SignalGraph.Database

inductive TextEncoding where
  | utf8
  | utf16le
  | utf16be
  deriving DecidableEq

namespace TextEncoding

/-- The 16-bit units of a code. -/
def units (code : Nat) : List Nat :=
  if code < 0x10000 then [code]
  else [0xD800 + (code - 0x10000) / 0x400, 0xDC00 + (code - 0x10000) % 0x400]

/-- The characters of units. Half a pair stands for the mark of what is no character. -/
def characters : List Nat → List Char
  | [] => []
  | [unit] => [if 0xD800 ≤ unit ∧ unit < 0xE000 then Char.ofNat 0xFFFD else Char.ofNat unit]
  | unit :: low :: rest =>
    if 0xD800 ≤ unit ∧ unit < 0xDC00 ∧ 0xDC00 ≤ low ∧ low < 0xE000 then
      Char.ofNat (0x10000 + (unit - 0xD800) * 0x400 + (low - 0xDC00)) :: characters rest
    else if 0xD800 ≤ unit ∧ unit < 0xE000 then Char.ofNat 0xFFFD :: characters (low :: rest)
    else Char.ofNat unit :: characters (low :: rest)

def ofUnits (units : List Nat) : String := String.ofList ((characters units).flatMap Bytes.held)

def pairs : List UInt8 → List (Nat × Nat)
  | first :: second :: rest => (first.toNat, second.toNat) :: pairs rest
  | _ => []

/-- The 16-bit units of a text. -/
def unitsOf (text : String) : List Nat :=
  if Bytes.isBroken text then
    (Bytes.glyphs (Bytes.ofText text)).flatMap fun glyph => units glyph.code
  else text.toList.flatMap fun c => units c.toNat

def encode (encoding : TextEncoding) (text : String) : List UInt8 :=
  match encoding with
  | utf8 => Bytes.ofText text
  | utf16le => (unitsOf text).flatMap fun unit =>
      [UInt8.ofNat (unit % 256), UInt8.ofNat (unit / 256)]
  | utf16be => (unitsOf text).flatMap fun unit =>
      [UInt8.ofNat (unit / 256), UInt8.ofNat (unit % 256)]

def decode (encoding : TextEncoding) (bytes : List UInt8) : String :=
  match encoding with
  | utf8 => Bytes.toText bytes
  | utf16le => ofUnits ((pairs bytes).map fun pair => pair.1 + pair.2 * 256)
  | utf16be => ofUnits ((pairs bytes).map fun pair => pair.1 * 256 + pair.2)

end TextEncoding

end SignalGraph.Database
