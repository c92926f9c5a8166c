/-!
Identifiers derived from a name inside a namespace: the first sixteen bytes of the SHA-1 digest of
namespace and name, marked as version five.
-/

namespace FlagDecision.NameId

/-- The bits that leave on the left come back on the right. -/
def rotateLeft (x : UInt32) (n : UInt32) : UInt32 := (x <<< n) ||| (x >>> (32 - n))

/-- Five words of digest state. -/
structure Digest where
  a : UInt32
  b : UInt32
  c : UInt32
  d : UInt32
  e : UInt32
  deriving DecidableEq, Repr

def Digest.initial : Digest := ⟨0x67452301, 0xEFCDAB89, 0x98BADCFE, 0x10325476, 0xC3D2E1F0⟩

/-- Word by word sum of two states. -/
def Digest.add (x y : Digest) : Digest := ⟨x.a + y.a, x.b + y.b, x.c + y.c, x.d + y.d, x.e + y.e⟩

/-- The bytes of a word, highest first. -/
def wordBytes (w : UInt32) : List UInt8 :=
  [(w >>> 24).toUInt8, (w >>> 16).toUInt8, (w >>> 8).toUInt8, w.toUInt8]

/-- A word of bytes, highest first. -/
def word (bytes : List UInt8) : UInt32 := bytes.foldl (fun w b => (w <<< 8) ||| b.toUInt32) 0

/-- Consecutive pieces of `size` bytes; a shorter rest is dropped. -/
def pieces (size : Nat) : Nat → List UInt8 → List (List UInt8)
  | 0, _ => []
  | n + 1, bytes =>
    if bytes.length < size then [] else bytes.take size :: pieces size n (bytes.drop size)

/-- The message with a one bit, zeros up to eight bytes before a whole block, and its length in
bits. -/
def padded (message : List UInt8) : List UInt8 :=
  let zeros := (119 - message.length % 64) % 64
  let bits := UInt64.ofNat (8 * message.length)
  message ++ 0x80 :: List.replicate zeros (0 : UInt8) ++ wordBytes (bits >>> 32).toUInt32 ++
    wordBytes bits.toUInt32

/-- The eighty schedule words of a block: the sixteen of the block, then each from four before it.
The list holds the latest word first. -/
def schedule (block : List UInt32) : List UInt32 :=
  ((List.range 64).foldl (fun latest _ =>
    let back (n : Nat) : UInt32 := latest.getD (n - 1) 0
    rotateLeft (back 3 ^^^ back 8 ^^^ back 14 ^^^ back 16) 1 :: latest) block.reverse).reverse

/-- The mixing function and constant of a round. -/
def roundTerm (round : Nat) (s : Digest) : UInt32 :=
  if round < 20 then ((s.b &&& s.c) ||| (~~~s.b &&& s.d)) + 0x5A827999
  else if round < 40 then (s.b ^^^ s.c ^^^ s.d) + 0x6ED9EBA1
  else if round < 60 then ((s.b &&& s.c) ||| (s.b &&& s.d) ||| (s.c &&& s.d)) + 0x8F1BBCDC
  else (s.b ^^^ s.c ^^^ s.d) + 0xCA62C1D6

def compress (state : Digest) (block : List UInt8) : Digest :=
  let words := schedule ((pieces 4 16 block).map word)
  let mixed := words.zipIdx.foldl (fun s (w, round) =>
    ⟨rotateLeft s.a 5 + roundTerm round s + s.e + w, s.a, rotateLeft s.b 30, s.c, s.d⟩) state
  state.add mixed

/-- The twenty bytes of the SHA-1 digest. -/
def sha1 (message : List UInt8) : List UInt8 :=
  let bytes := padded message
  let final := (pieces 64 (bytes.length / 64) bytes).foldl compress Digest.initial
  wordBytes final.a ++ wordBytes final.b ++ wordBytes final.c ++ wordBytes final.d ++
    wordBytes final.e

/-- The sixteen bytes of the identifier of a name in a namespace. -/
def ofName (namespaceBytes : List UInt8) (name : String) : List UInt8 :=
  let digest := (sha1 (namespaceBytes ++ name.toUTF8.toList)).take 16
  digest.mapIdx fun i b =>
    if i = 6 then (b &&& 0x0F) ||| 0x50
    else if i = 8 then (b &&& 0x3F) ||| 0x80
    else b

/-- The well-known namespace of web addresses. -/
def webAddresses : List UInt8 :=
  [0x6b, 0xa7, 0xb8, 0x11, 0x9d, 0xad, 0x11, 0xd1, 0x80, 0xb4, 0x00, 0xc0, 0x4f, 0xd4, 0x30, 0xc8]

/-- Bytes as hexadecimal digits in upper case. -/
def hexText (bytes : List UInt8) : String :=
  String.ofList (bytes.flatMap fun b =>
    let digit (n : Nat) : Char := (Nat.digitChar n).toUpper
    [digit (b.toNat / 16), digit (b.toNat % 16)])

end FlagDecision.NameId
