import SignedHttp.Base64
import SignedHttp.Digest.Md5
import SignedHttp.Digest.Sha1
import SignedHttp.Digest.Sha2
import SignedHttp.Text.Case
import SignedHttp.Text.Hex
import SignedHttp.Text.Quoted

/-!
# Digest algorithms

A named hash function, used as a plain digest and as a keyed message authentication code (HMAC).

* `Algorithm.hash`: the digest of a message.
* `Algorithm.mac`: the authentication code of a message under a key.
* `Algorithm.find?`: look-up by name, in any letter case and with hyphens anywhere.
-/

set_option autoImplicit false

namespace SignedHttp

inductive Algorithm
  | md5
  | sha1
  | sha224
  | sha256
  | sha384
  | sha512
  deriving DecidableEq

namespace Algorithm

def name : Algorithm → String
  | md5 => "MD5"
  | sha1 => "SHA1"
  | sha224 => "SHA224"
  | sha256 => "SHA256"
  | sha384 => "SHA384"
  | sha512 => "SHA512"

def all : List Algorithm := [md5, sha1, sha224, sha256, sha384, sha512]

def hash : Algorithm → Octets → Octets
  | md5 => Digest.md5
  | sha1 => Digest.sha1
  | sha224 => Digest.sha224
  | sha256 => Digest.sha256
  | sha384 => Digest.sha384
  | sha512 => Digest.sha512

def blockSize : Algorithm → Nat
  | md5 | sha1 | sha224 | sha256 => 64
  | sha384 | sha512 => 128

/-- The key as one block: hashed when it is longer than a block, then filled up with zeros. -/
def blockKey (alg : Algorithm) (key : Octets) : Octets :=
  let short := if key.length ≤ alg.blockSize then key else alg.hash key
  short ++ List.replicate (alg.blockSize - short.length) 0

def mac (alg : Algorithm) (key message : Octets) : Octets :=
  let block := alg.blockKey key
  alg.hash (block.map (· ^^^ 0x5C) ++ alg.hash (block.map (· ^^^ 0x36) ++ message))

def hashHex (alg : Algorithm) (message : Octets) : String := Hex.encode (alg.hash message)

def hashBase64 (alg : Algorithm) (message : Octets) : String := Base64.encode (alg.hash message)

def macBase64 (alg : Algorithm) (key message : Octets) : String :=
  Base64.encode (alg.mac key message)

/-- How an algorithm is shown, for instance `DigestAlgorithm('MD5')`. -/
def shown (alg : Algorithm) : String := s!"DigestAlgorithm({Text.quoted alg.name})"

def find? (name : String) : Option Algorithm :=
  let key := String.ofList ((Text.upper name).toList.filter (· != '-'))
  all.find? (·.name == key)

end Algorithm

/-- A name that no algorithm has. -/
structure UnsupportedAlgorithm where
  name : String
  deriving DecidableEq

def UnsupportedAlgorithm.message (e : UnsupportedAlgorithm) : String :=
  s!"Unsupported algorithm: {e.name}"

def Algorithm.get (name : String) : Except UnsupportedAlgorithm Algorithm :=
  match Algorithm.find? name with
  | some alg => .ok alg
  | none => .error ⟨name⟩

end SignedHttp
