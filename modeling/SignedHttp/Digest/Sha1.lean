import SignedHttp.Digest.Block

/-!
# The SHA-1 hash function

* `Sha1.compress`: eighty rounds over one block.
* `sha1`: the five words of the final state, most significant octet first.
-/

set_option autoImplicit false

namespace SignedHttp
namespace Digest
namespace Sha1

structure State where
  a : BitVec 32
  b : BitVec 32
  c : BitVec 32
  d : BitVec 32
  e : BitVec 32

def State.toList (s : State) : List (BitVec 32) := [s.a, s.b, s.c, s.d, s.e]

def State.add (s t : State) : State := ⟨s.a + t.a, s.b + t.b, s.c + t.c, s.d + t.d, s.e + t.e⟩

/-- The first `n` words of the schedule that sixteen words begin. -/
def schedule : Nat → List (BitVec 32) → List (BitVec 32)
  | 0, _ => []
  | _, [] => []
  | n + 1, x :: rest =>
    let next := (rest.getD 12 0 ^^^ rest.getD 7 0 ^^^ rest.getD 1 0 ^^^ x).rotateLeft 1
    x :: schedule n (rest ++ [next])

/-- The mixing function and the constant of a round. -/
def mix (s : State) (i : Nat) : BitVec 32 :=
  if i < 20 then ((s.b &&& s.c) ||| (~~~s.b &&& s.d)) + 0x5A827999
  else if i < 40 then (s.b ^^^ s.c ^^^ s.d) + 0x6ED9EBA1
  else if i < 60 then ((s.b &&& s.c) ||| (s.b &&& s.d) ||| (s.c &&& s.d)) + 0x8F1BBCDC
  else (s.b ^^^ s.c ^^^ s.d) + 0xCA62C1D6

def round (s : State) (xi : BitVec 32 × Nat) : State :=
  ⟨s.a.rotateLeft 5 + mix s xi.2 + s.e + xi.1, s.a, s.b.rotateLeft 30, s.c, s.d⟩

def compress (s : State) (block : Octets) : State :=
  let words := (groups 4 16 block).map fun bytes => BitVec.ofNat 32 (natOfOctets bytes)
  s.add ((schedule 80 words).zipIdx.foldl round s)

def start : State := ⟨0x67452301, 0xEFCDAB89, 0x98BADCFE, 0x10325476, 0xC3D2E1F0⟩

end Sha1

def sha1 (message : Octets) : Octets :=
  let lengthForm := octetsOfNat 8 (8 * message.length)
  let final := (blocks 64 (padded 64 lengthForm message)).foldl Sha1.compress Sha1.start
  final.toList.flatMap fun word => octetsOfNat 4 word.toNat

theorem length_sha1 (message : Octets) : (sha1 message).length = 20 := by
  simp [sha1, Sha1.State.toList, length_octetsOfNat]

end Digest
end SignedHttp
