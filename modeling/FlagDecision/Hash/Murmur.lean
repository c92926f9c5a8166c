/-!
The 32 bit hash that spreads users over buckets: four bytes at a time, little end first, with a
final avalanche.
-/

namespace FlagDecision.Murmur

/-- The bits that leave on the left come back on the right. -/
def rotateLeft (x : UInt32) (n : UInt32) : UInt32 := (x <<< n) ||| (x >>> (32 - n))

def scramble (k : UInt32) : UInt32 := rotateLeft (k * 0xcc9e2d51) 15 * 0x1b873593

/-- A word of up to four bytes, the first byte lowest. -/
def word (bytes : List UInt8) : UInt32 := bytes.foldr (fun b w => (w <<< 8) ||| b.toUInt32) 0

/-- Absorb all bytes; one to three left at the end enter without the mixing step. -/
def absorb (state : UInt32) : List UInt8 → UInt32
  | a :: b :: c :: d :: rest =>
    absorb (rotateLeft (state ^^^ scramble (word [a, b, c, d])) 13 * 5 + 0xe6546b64) rest
  | [] => state
  | tail => state ^^^ scramble (word tail)

/-- Let every bit of the state reach every bit of the result. -/
def avalanche (h : UInt32) : UInt32 :=
  let h := (h ^^^ (h >>> 16)) * 0x85ebca6b
  let h := (h ^^^ (h >>> 13)) * 0xc2b2ae35
  h ^^^ (h >>> 16)

def hash (seed : UInt32) (bytes : List UInt8) : UInt32 :=
  avalanche (absorb seed bytes ^^^ UInt32.ofNat bytes.length)

end FlagDecision.Murmur
