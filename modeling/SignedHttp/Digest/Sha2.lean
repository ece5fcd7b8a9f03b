import SignedHttp.Digest.Block

/-!
# The SHA-2 hash functions

The functions of 32-bit and of 64-bit words differ only in the word size, the number of rounds and
the rotations, so they are one definition over words of any width.

* `Sha2.Shape`: what distinguishes the two widths.
* `Sha2.hash`: the words of the final state, most significant octet first.
* `sha224`, `sha256`, `sha384`, `sha512`.
-/

set_option autoImplicit false

namespace SignedHttp
namespace Digest
namespace Sha2

structure Shape (w : Nat) where
  blockSize : Nat
  constants : List (BitVec w)
  bigSigma0 : BitVec w → BitVec w
  bigSigma1 : BitVec w → BitVec w
  smallSigma0 : BitVec w → BitVec w
  smallSigma1 : BitVec w → BitVec w

structure State (w : Nat) where
  a : BitVec w
  b : BitVec w
  c : BitVec w
  d : BitVec w
  e : BitVec w
  f : BitVec w
  g : BitVec w
  h : BitVec w

variable {w : Nat}

def State.toList (s : State w) : List (BitVec w) := [s.a, s.b, s.c, s.d, s.e, s.f, s.g, s.h]

def State.add (s t : State w) : State w :=
  ⟨s.a + t.a, s.b + t.b, s.c + t.c, s.d + t.d, s.e + t.e, s.f + t.f, s.g + t.g, s.h + t.h⟩

/-- The first `n` words of the schedule that sixteen words begin. -/
def schedule (shape : Shape w) : Nat → List (BitVec w) → List (BitVec w)
  | 0, _ => []
  | _, [] => []
  | n + 1, x :: rest =>
    let next := shape.smallSigma1 (rest.getD 13 0) + rest.getD 8 0 +
      shape.smallSigma0 (rest.getD 0 0) + x
    x :: schedule shape n (rest ++ [next])

def round (shape : Shape w) (s : State w) (kx : BitVec w × BitVec w) : State w :=
  let choice := (s.e &&& s.f) ^^^ (~~~s.e &&& s.g)
  let majority := (s.a &&& s.b) ^^^ (s.a &&& s.c) ^^^ (s.b &&& s.c)
  let t := s.h + shape.bigSigma1 s.e + choice + kx.1 + kx.2
  ⟨t + (shape.bigSigma0 s.a + majority), s.a, s.b, s.c, s.d + t, s.e, s.f, s.g⟩

def compress (shape : Shape w) (s : State w) (block : Octets) : State w :=
  let words := (groups (w / 8) 16 block).map fun bytes => BitVec.ofNat w (natOfOctets bytes)
  let scheduled := schedule shape shape.constants.length words
  s.add ((shape.constants.zip scheduled).foldl (round shape) s)

def hash (shape : Shape w) (start : State w) (message : Octets) : Octets :=
  let lengthForm := octetsOfNat (w / 4) (8 * message.length)
  let inBlocks := blocks shape.blockSize (padded shape.blockSize lengthForm message)
  let final := inBlocks.foldl (compress shape) start
  final.toList.flatMap fun word => octetsOfNat (w / 8) word.toNat

theorem length_hash (shape : Shape w) (start : State w) (message : Octets) :
    (hash shape start message).length = 8 * (w / 8) := by
  simp [hash, State.toList, length_octetsOfNat]
  omega

/-- The fractional parts of the cube roots of the first eighty primes, to 64 bits. -/
def constants64 : List (BitVec 64) := [
  0x428a2f98d728ae22, 0x7137449123ef65cd, 0xb5c0fbcfec4d3b2f, 0xe9b5dba58189dbbc,
  0x3956c25bf348b538, 0x59f111f1b605d019, 0x923f82a4af194f9b, 0xab1c5ed5da6d8118,
  0xd807aa98a3030242, 0x12835b0145706fbe, 0x243185be4ee4b28c, 0x550c7dc3d5ffb4e2,
  0x72be5d74f27b896f, 0x80deb1fe3b1696b1, 0x9bdc06a725c71235, 0xc19bf174cf692694,
  0xe49b69c19ef14ad2, 0xefbe4786384f25e3, 0x0fc19dc68b8cd5b5, 0x240ca1cc77ac9c65,
  0x2de92c6f592b0275, 0x4a7484aa6ea6e483, 0x5cb0a9dcbd41fbd4, 0x76f988da831153b5,
  0x983e5152ee66dfab, 0xa831c66d2db43210, 0xb00327c898fb213f, 0xbf597fc7beef0ee4,
  0xc6e00bf33da88fc2, 0xd5a79147930aa725, 0x06ca6351e003826f, 0x142929670a0e6e70,
  0x27b70a8546d22ffc, 0x2e1b21385c26c926, 0x4d2c6dfc5ac42aed, 0x53380d139d95b3df,
  0x650a73548baf63de, 0x766a0abb3c77b2a8, 0x81c2c92e47edaee6, 0x92722c851482353b,
  0xa2bfe8a14cf10364, 0xa81a664bbc423001, 0xc24b8b70d0f89791, 0xc76c51a30654be30,
  0xd192e819d6ef5218, 0xd69906245565a910, 0xf40e35855771202a, 0x106aa07032bbd1b8,
  0x19a4c116b8d2d0c8, 0x1e376c085141ab53, 0x2748774cdf8eeb99, 0x34b0bcb5e19b48a8,
  0x391c0cb3c5c95a63, 0x4ed8aa4ae3418acb, 0x5b9cca4f7763e373, 0x682e6ff3d6b2b8a3,
  0x748f82ee5defb2fc, 0x78a5636f43172f60, 0x84c87814a1f0ab72, 0x8cc702081a6439ec,
  0x90befffa23631e28, 0xa4506cebde82bde9, 0xbef9a3f7b2c67915, 0xc67178f2e372532b,
  0xca273eceea26619c, 0xd186b8c721c0c207, 0xeada7dd6cde0eb1e, 0xf57d4f7fee6ed178,
  0x06f067aa72176fba, 0x0a637dc5a2c898a6, 0x113f9804bef90dae, 0x1b710b35131c471b,
  0x28db77f523047d84, 0x32caab7b40c72493, 0x3c9ebe0a15c9bebc, 0x431d67c49c100d4c,
  0x4cc5d4becb3e42b6, 0x597f299cfc657e2a, 0x5fcb6fab3ad6faec, 0x6c44198c4a475817]

def shape64 : Shape 64 where
  blockSize := 128
  constants := constants64
  bigSigma0 x := x.rotateRight 28 ^^^ x.rotateRight 34 ^^^ x.rotateRight 39
  bigSigma1 x := x.rotateRight 14 ^^^ x.rotateRight 18 ^^^ x.rotateRight 41
  smallSigma0 x := x.rotateRight 1 ^^^ x.rotateRight 8 ^^^ x >>> 7
  smallSigma1 x := x.rotateRight 19 ^^^ x.rotateRight 61 ^^^ x >>> 6

/-- The constants of the 32-bit functions are the high halves of the first sixty-four. -/
def shape32 : Shape 32 where
  blockSize := 64
  constants := (constants64.take 64).map fun k => k.extractLsb' 32 32
  bigSigma0 x := x.rotateRight 2 ^^^ x.rotateRight 13 ^^^ x.rotateRight 22
  bigSigma1 x := x.rotateRight 6 ^^^ x.rotateRight 11 ^^^ x.rotateRight 25
  smallSigma0 x := x.rotateRight 7 ^^^ x.rotateRight 18 ^^^ x >>> 3
  smallSigma1 x := x.rotateRight 17 ^^^ x.rotateRight 19 ^^^ x >>> 10

/-- The fractional parts of the square roots of the first eight primes. -/
def start512 : State 64 :=
  ⟨0x6a09e667f3bcc908, 0xbb67ae8584caa73b, 0x3c6ef372fe94f82b, 0xa54ff53a5f1d36f1,
   0x510e527fade682d1, 0x9b05688c2b3e6c1f, 0x1f83d9abfb41bd6b, 0x5be0cd19137e2179⟩

/-- The fractional parts of the square roots of the ninth to the sixteenth prime. -/
def start384 : State 64 :=
  ⟨0xcbbb9d5dc1059ed8, 0x629a292a367cd507, 0x9159015a3070dd17, 0x152fecd8f70e5939,
   0x67332667ffc00b31, 0x8eb44a8768581511, 0xdb0c2e0d64f98fa7, 0x47b5481dbefa4fa4⟩

/-- The word of 32 bits that begins at bit `low` of each word. -/
def State.slice (s : State 64) (low : Nat) : State 32 :=
  ⟨s.a.extractLsb' low 32, s.b.extractLsb' low 32, s.c.extractLsb' low 32,
   s.d.extractLsb' low 32, s.e.extractLsb' low 32, s.f.extractLsb' low 32,
   s.g.extractLsb' low 32, s.h.extractLsb' low 32⟩

end Sha2

def sha512 (message : Octets) : Octets := Sha2.hash Sha2.shape64 Sha2.start512 message

def sha384 (message : Octets) : Octets :=
  (Sha2.hash Sha2.shape64 Sha2.start384 message).take 48

def sha256 (message : Octets) : Octets :=
  Sha2.hash Sha2.shape32 (Sha2.start512.slice 32) message

def sha224 (message : Octets) : Octets :=
  (Sha2.hash Sha2.shape32 (Sha2.start384.slice 0) message).take 28

end Digest
end SignedHttp
