import SignalGraph.Number.Power

/-! The SHA-256 digest of a text in UTF-8, in lower-case hexadecimal. -/

set_option autoImplicit false

namespace SignalGraph.Sha256

def roundConstants : List UInt32 := [
  0x428a2f98, 0x71374491, 0xb5c0fbcf, 0xe9b5dba5, 0x3956c25b, 0x59f111f1, 0x923f82a4, 0xab1c5ed5,
  0xd807aa98, 0x12835b01, 0x243185be, 0x550c7dc3, 0x72be5d74, 0x80deb1fe, 0x9bdc06a7, 0xc19bf174,
  0xe49b69c1, 0xefbe4786, 0x0fc19dc6, 0x240ca1cc, 0x2de92c6f, 0x4a7484aa, 0x5cb0a9dc, 0x76f988da,
  0x983e5152, 0xa831c66d, 0xb00327c8, 0xbf597fc7, 0xc6e00bf3, 0xd5a79147, 0x06ca6351, 0x14292967,
  0x27b70a85, 0x2e1b2138, 0x4d2c6dfc, 0x53380d13, 0x650a7354, 0x766a0abb, 0x81c2c92e, 0x92722c85,
  0xa2bfe8a1, 0xa81a664b, 0xc24b8b70, 0xc76c51a3, 0xd192e819, 0xd6990624, 0xf40e3585, 0x106aa070,
  0x19a4c116, 0x1e376c08, 0x2748774c, 0x34b0bcb5, 0x391c0cb3, 0x4ed8aa4a, 0x5b9cca4f, 0x682e6ff3,
  0x748f82ee, 0x78a5636f, 0x84c87814, 0x8cc70208, 0x90befffa, 0xa4506ceb, 0xbef9a3f7, 0xc67178f2]

structure State where
  a : UInt32
  b : UInt32
  c : UInt32
  d : UInt32
  e : UInt32
  f : UInt32
  g : UInt32
  h : UInt32

def initial : State :=
  ⟨0x6a09e667, 0xbb67ae85, 0x3c6ef372, 0xa54ff53a, 0x510e527f, 0x9b05688c, 0x1f83d9ab, 0x5be0cd19⟩

def rotate (word count : UInt32) : UInt32 := (word >>> count) ||| (word <<< (32 - count))

def State.step (state : State) (constant word : UInt32) : State :=
  let mixed := rotate state.e 6 ^^^ rotate state.e 11 ^^^ rotate state.e 25
  let choice := (state.e &&& state.f) ^^^ (~~~state.e &&& state.g)
  let first := state.h + mixed + choice + constant + word
  let spread := rotate state.a 2 ^^^ rotate state.a 13 ^^^ rotate state.a 22
  let majority := (state.a &&& state.b) ^^^ (state.a &&& state.c) ^^^ (state.b &&& state.c)
  ⟨first + (spread + majority), state.a, state.b, state.c, state.d + first, state.e, state.f,
    state.g⟩

def State.add (first second : State) : State :=
  ⟨first.a + second.a, first.b + second.b, first.c + second.c, first.d + second.d,
    first.e + second.e, first.f + second.f, first.g + second.g, first.h + second.h⟩

/-- The word that sixteen earlier ones give. -/
def nextWord (words : Array UInt32) : UInt32 :=
  let back (distance : Nat) := words.getD (words.size - distance) 0
  let low := rotate (back 15) 7 ^^^ rotate (back 15) 18 ^^^ (back 15 >>> 3)
  let high := rotate (back 2) 17 ^^^ rotate (back 2) 19 ^^^ (back 2 >>> 10)
  back 16 + low + back 7 + high

/-- The sixteen words of a block and the forty-eight that follow from them. -/
def schedule (block : List UInt32) : List UInt32 :=
  ((List.range 48).foldl (fun words _ => words.push (nextWord words)) block.toArray).toList

def State.absorb (state : State) (block : List UInt32) : State :=
  state.add ((roundConstants.zip (schedule block)).foldl
    (fun state entry => state.step entry.1 entry.2) state)

/-- A bit set, zeros, and the length in bits, up to whole blocks. -/
def pad (bytes : List UInt8) : List UInt8 :=
  let length := bytes.length
  let zeros := (119 - length % 64) % 64
  bytes ++ 0x80 :: (List.replicate zeros 0 ++
    (List.range 8).map fun place => UInt8.ofNat (length * 8 / power 256 (7 - place)))

def toWords : List UInt8 → List UInt32
  | a :: b :: c :: d :: rest =>
    (a.toUInt32 <<< 24 ||| b.toUInt32 <<< 16 ||| c.toUInt32 <<< 8 ||| d.toUInt32) :: toWords rest
  | _ => []

def absorbAll (state : State) (words : List UInt32) : State :=
  match words with
  | [] => state
  | first :: rest => absorbAll (state.absorb ((first :: rest).take 16)) (rest.drop 15)
termination_by words.length
decreasing_by simp only [List.length_drop, List.length_cons]; omega

def hexWord (word : UInt32) : List Char :=
  (List.range 8).map fun place => Nat.digitChar (word.toNat / power 16 (7 - place) % 16)

def State.toHex (state : State) : String :=
  String.ofList ([state.a, state.b, state.c, state.d, state.e, state.f, state.g, state.h].flatMap
    hexWord)

def hex (text : String) : String :=
  (absorbAll initial (toWords (pad text.toUTF8.toList))).toHex

end SignalGraph.Sha256
