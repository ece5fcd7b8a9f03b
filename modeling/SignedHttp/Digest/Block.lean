import SignedHttp.Text.Utf8

/-!
# Messages in blocks

What the iterated hash functions share: a message is padded to a whole number of blocks, the last
of which ends in the length of the message in bits, and each block is read as machine words.

* `padded`: the message with its padding.
* `groups`: a list cut into groups of one size.
* `natOfOctets`, `octetsOfNat`: numbers and octets, most significant octet first.
-/

set_option autoImplicit false

namespace SignedHttp
namespace Digest

/-- The first `count` groups of `size` elements. -/
def groups {α : Type} (size : Nat) : Nat → List α → List (List α)
  | 0, _ => []
  | count + 1, xs => xs.take size :: groups size count (xs.drop size)

def natOfOctets (bytes : Octets) : Nat := bytes.foldl (fun n b => n * 256 + b.toNat) 0

/-- The last `width` octets of a number. -/
def octetsOfNat : Nat → Nat → Octets
  | 0, _ => []
  | width + 1, n => octetsOfNat width (n / 256) ++ [UInt8.ofNat n]

theorem length_octetsOfNat (width n : Nat) : (octetsOfNat width n).length = width := by
  induction width generalizing n with
  | zero => rfl
  | succ width ih => simp [octetsOfNat, ih]

/-- A one bit, as many zeros as the block size asks for, and the given form of the length. -/
def padded (blockSize : Nat) (lengthForm : Octets) (message : Octets) : Octets :=
  let used := message.length + 1 + lengthForm.length
  let zeros := (blockSize - used % blockSize) % blockSize
  message ++ 0x80 :: (List.replicate zeros 0 ++ lengthForm)

def blocks (blockSize : Nat) (bytes : Octets) : List Octets :=
  groups blockSize (bytes.length / blockSize) bytes

end Digest
end SignedHttp
