import SignalGraph.Number.Power

/-! Whole numbers as bytes: in a fixed number of bytes, the highest first, and in one to nine
bytes, the fewer the smaller the number.
-/

set_option autoImplicit false

namespace SignalGraph.Database

namespace FixedWidth

def encode (width n : Nat) : List UInt8 :=
  (List.range width).map fun place => UInt8.ofNat (n / power 256 (width - 1 - place) % 256)

def decode (bytes : List UInt8) : Nat := bytes.foldl (fun n byte => n * 256 + byte.toNat) 0

/-- The integer that so many bits stand for, as a two's complement. -/
def signed (bits n : Nat) : Int := if n < power 2 (bits - 1) then n else n - power 2 bits

def unsigned (bits : Nat) (n : Int) : Nat := (n % power 2 bits).toNat

end FixedWidth

/-! Seven bits to a byte, each byte but the last marked by its highest bit; a ninth byte has
eight bits and needs no mark. -/
namespace Varint

/-- So many groups of seven bits, all marked. -/
def marked (count n : Nat) : List UInt8 :=
  (List.range count).map fun place =>
    UInt8.ofNat (128 + n / power 128 (count - 1 - place) % 128)

def encode (n : Nat) : List UInt8 :=
  if n < power 2 56 then marked (n.log2 / 7) (n / 128) ++ [UInt8.ofNat (n % 128)]
  else marked 8 (n / 256) ++ [UInt8.ofNat (n % 256)]

/-- Read on, after a number that was read so far, up to so many bytes before a ninth. -/
def decodeAfter (read : Nat) : Nat → List UInt8 → Option (Nat × List UInt8)
  | _, [] => none
  | 0, byte :: rest => some (read * 256 + byte.toNat, rest)
  | left + 1, byte :: rest =>
    if byte.toNat < 128 then some (read * 128 + byte.toNat, rest)
    else decodeAfter (read * 128 + (byte.toNat - 128)) left rest

/-- The number at the front, and what comes after it. -/
def decode? (bytes : List UInt8) : Option (Nat × List UInt8) := decodeAfter 0 8 bytes

/-- All the numbers, up to the end. -/
def decodeAll? (bytes : List UInt8) : Option (List Nat) := go bytes.length bytes
where
  go : Nat → List UInt8 → Option (List Nat)
    | _, [] => some []
    | 0, _ => none
    | fuel + 1, bytes => do
      let (n, rest) ← decode? bytes
      return n :: (← go fuel rest)

end Varint

end SignalGraph.Database
