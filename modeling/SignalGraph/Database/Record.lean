import SignalGraph.Database.Number
import SignalGraph.Database.TextEncoding

/-! Records of a database file: values one after another, behind a list of codes that say of
which class and how long each is.
-/

set_option autoImplicit false

namespace SignalGraph.Database

namespace Datum

/-- The codes of integers, each with the bytes it takes. -/
def integerWidths : List (Nat × Nat) := [(1, 1), (2, 2), (3, 3), (4, 4), (5, 6), (6, 8)]

/-- The integer fits into so many bytes. -/
def fits (value : Int) (width : Nat) : Bool :=
  -(power 2 (8 * width - 1) : Int) ≤ value && value < (power 2 (8 * width - 1) : Int)

/-- The code of a value, and its bytes. Zero and one are codes without bytes. -/
def encode (encoding : TextEncoding) : Datum → Nat × List UInt8
  | null => (0, [])
  | integer value =>
    if value = 0 then (8, [])
    else if value = 1 then (9, [])
    else
      let (code, width) := (integerWidths.find? fun entry => fits value entry.2).getD (6, 8)
      (code, FixedWidth.encode width (FixedWidth.unsigned (8 * width) value))
  | real x => (7, FixedWidth.encode 8 x.toBits)
  | text value =>
    let bytes := encoding.encode value
    (13 + 2 * bytes.length, bytes)
  | blob bytes => (12 + 2 * bytes.length, bytes)

/-- The bytes that a value with this code takes. Two codes are reserved and take none. -/
def width (code : Nat) : Nat :=
  if 12 ≤ code then (code - 12) / 2
  else if code = 7 then 8
  else (integerWidths.lookup code).getD 0

def decode (encoding : TextEncoding) (code : Nat) (bytes : List UInt8) : Datum :=
  if 12 ≤ code then if code % 2 = 0 then blob bytes else text (encoding.decode bytes)
  else if code = 7 then ofReal (Binary64.ofBits (FixedWidth.decode bytes))
  else if code = 8 then integer 0
  else if code = 9 then integer 1
  else if code = 0 ∨ 9 < code then null
  else integer (FixedWidth.signed (8 * bytes.length) (FixedWidth.decode bytes))

end Datum

namespace Record

/-- The list of codes begins with its own length. -/
def encode (encoding : TextEncoding) (fields : List Datum) : List UInt8 :=
  let fields := fields.map (Datum.encode encoding)
  let codes := fields.flatMap fun field => Varint.encode field.1
  let length := if codes.length < 127 then codes.length + 1 else codes.length + 2
  Varint.encode length ++ codes ++ fields.flatMap fun field => field.2

def decodeFields? (encoding : TextEncoding) : List Nat → List UInt8 → Option (List Datum)
  | [], _ => some []
  | code :: codes, bytes => do
    let width := Datum.width code
    if bytes.length < width then none
    else
      return Datum.decode encoding code (bytes.take width) ::
        (← decodeFields? encoding codes (bytes.drop width))

/-- The values of a record; there is none if it ends too early. -/
def decode? (encoding : TextEncoding) (bytes : List UInt8) : Option (List Datum) := do
  let (length, rest) ← Varint.decode? bytes
  let left := length - (bytes.length - rest.length)
  decodeFields? encoding (← Varint.decodeAll? (rest.take left)) (rest.drop left)

end Record

end SignalGraph.Database
