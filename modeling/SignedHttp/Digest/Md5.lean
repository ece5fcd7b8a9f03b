import SignedHttp.Digest.Block

/-!
# The MD5 hash function

Words are read and written with the least significant octet first.

* `Md5.compress`: sixty-four rounds over one block.
* `md5`: the four words of the final state.
-/

set_option autoImplicit false

namespace SignedHttp
namespace Digest
namespace Md5

structure State where
  a : BitVec 32
  b : BitVec 32
  c : BitVec 32
  d : BitVec 32

def State.toList (s : State) : List (BitVec 32) := [s.a, s.b, s.c, s.d]

def State.add (s t : State) : State := ⟨s.a + t.a, s.b + t.b, s.c + t.c, s.d + t.d⟩

/-- The absolute sines of 1 to 64, to 32 bits. -/
def constants : List (BitVec 32) := [
  0xd76aa478, 0xe8c7b756, 0x242070db, 0xc1bdceee, 0xf57c0faf, 0x4787c62a, 0xa8304613, 0xfd469501,
  0x698098d8, 0x8b44f7af, 0xffff5bb1, 0x895cd7be, 0x6b901122, 0xfd987193, 0xa679438e, 0x49b40821,
  0xf61e2562, 0xc040b340, 0x265e5a51, 0xe9b6c7aa, 0xd62f105d, 0x02441453, 0xd8a1e681, 0xe7d3fbc8,
  0x21e1cde6, 0xc33707d6, 0xf4d50d87, 0x455a14ed, 0xa9e3e905, 0xfcefa3f8, 0x676f02d9, 0x8d2a4c8a,
  0xfffa3942, 0x8771f681, 0x6d9d6122, 0xfde5380c, 0xa4beea44, 0x4bdecfa9, 0xf6bb4b60, 0xbebfbc70,
  0x289b7ec6, 0xeaa127fa, 0xd4ef3085, 0x04881d05, 0xd9d4d039, 0xe6db99e5, 0x1fa27cf8, 0xc4ac5665,
  0xf4292244, 0x432aff97, 0xab9423a7, 0xfc93a039, 0x655b59c3, 0x8f0ccc92, 0xffeff47d, 0x85845dd1,
  0x6fa87e4f, 0xfe2ce6e0, 0xa3014314, 0x4e0811a1, 0xf7537e82, 0xbd3af235, 0x2ad7d2bb, 0xeb86d391]

/-- How far a round rotates: each quarter repeats four distances. -/
def rotation (i : Nat) : Nat :=
  let distances : List Nat :=
    match i / 16 with
    | 0 => [7, 12, 17, 22]
    | 1 => [5, 9, 14, 20]
    | 2 => [4, 11, 16, 23]
    | _ => [6, 10, 15, 21]
  distances.getD (i % 4) 0

/-- The mixing function of a round and the index of the word it takes in. -/
def mix (s : State) (i : Nat) : BitVec 32 × Nat :=
  match i / 16 with
  | 0 => ((s.b &&& s.c) ||| (~~~s.b &&& s.d), i)
  | 1 => ((s.d &&& s.b) ||| (~~~s.d &&& s.c), (5 * i + 1) % 16)
  | 2 => (s.b ^^^ s.c ^^^ s.d, (3 * i + 5) % 16)
  | _ => (s.c ^^^ (s.b ||| ~~~s.d), (7 * i) % 16)

def round (words : List (BitVec 32)) (s : State) (ki : BitVec 32 × Nat) : State :=
  let (mixed, index) := mix s ki.2
  let sum := s.a + mixed + ki.1 + words.getD index 0
  ⟨s.d, s.b + sum.rotateLeft (rotation ki.2), s.b, s.c⟩

def compress (s : State) (block : Octets) : State :=
  let words := (groups 4 16 block).map fun bytes => BitVec.ofNat 32 (natOfOctets bytes.reverse)
  s.add (constants.zipIdx.foldl (round words) s)

def start : State := ⟨0x67452301, 0xEFCDAB89, 0x98BADCFE, 0x10325476⟩

end Md5

def md5 (message : Octets) : Octets :=
  let lengthForm := (octetsOfNat 8 (8 * message.length)).reverse
  let final := (blocks 64 (padded 64 lengthForm message)).foldl Md5.compress Md5.start
  final.toList.flatMap fun word => (octetsOfNat 4 word.toNat).reverse

theorem length_md5 (message : Octets) : (md5 message).length = 16 := by
  simp [md5, Md5.State.toList, length_octetsOfNat]

end Digest
end SignedHttp
