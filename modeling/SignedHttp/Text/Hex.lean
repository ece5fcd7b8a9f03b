import SignedHttp.Text.Utf8

/-!
# Hexadecimal

* `Hex.lowerDigit`, `Hex.upperDigit`, `Hex.value?`: single digits.
* `Hex.padded`: a number in a fixed number of lower-case digits.
* `Hex.encode`, `Hex.decode?`: octets as two lower-case digits each, related by `decode?_encode`.
-/

set_option autoImplicit false

namespace SignedHttp
namespace Hex

/-- The lower-case digit of a number below 16. -/
def lowerDigit (n : Nat) : Char := Char.ofNat (if n < 10 then 0x30 + n else 0x57 + n)

/-- The upper-case digit of a number below 16. -/
def upperDigit (n : Nat) : Char := Char.ofNat (if n < 10 then 0x30 + n else 0x37 + n)

/-- The value of a digit in either case. -/
def value? (c : Char) : Option Nat :=
  let n := c.toNat
  if 0x30 ≤ n && n ≤ 0x39 then some (n - 0x30)
  else if 0x41 ≤ n && n ≤ 0x46 then some (n - 0x37)
  else if 0x61 ≤ n && n ≤ 0x66 then some (n - 0x57)
  else none

/-- The last `width` digits of a number. -/
def padded : Nat → Nat → List Char
  | 0, _ => []
  | width + 1, n => padded width (n / 16) ++ [lowerDigit (n % 16)]

def encodeList (bytes : Octets) : List Char :=
  bytes.flatMap fun b => [lowerDigit (b.toNat / 16), lowerDigit (b.toNat % 16)]

def encode (bytes : Octets) : String := String.ofList (encodeList bytes)

def decodeList? : List Char → Option Octets
  | [] => some []
  | high :: low :: rest => do
    let x ← value? high
    let y ← value? low
    let bytes ← decodeList? rest
    some (UInt8.ofNat (x * 16 + y) :: bytes)
  | [_] => none

def decode? (s : String) : Option Octets := decodeList? s.toList

/-! ## Reading what was written -/

theorem value?_upperDigit : ∀ n < 16, value? (upperDigit n) = some n := by decide

theorem value?_lowerDigit : ∀ n < 16, value? (lowerDigit n) = some n := by decide

theorem decodeList?_encodeList (bytes : Octets) : decodeList? (encodeList bytes) = some bytes := by
  induction bytes with
  | nil => rfl
  | cons b rest ih =>
    have hb : b.toNat < 256 := b.toNat_lt
    have h : UInt8.ofNat (b.toNat / 16 * 16 + b.toNat % 16) = b := by
      rw [Nat.div_add_mod']; exact UInt8.ofNat_toNat
    change decodeList? (lowerDigit _ :: lowerDigit _ :: encodeList rest) = _
    rw [decodeList?, value?_lowerDigit _ (by omega), value?_lowerDigit _ (by omega), ih]
    exact congrArg (fun a => some (a :: rest)) h

theorem decode?_encode (bytes : Octets) : decode? (encode bytes) = some bytes := by
  rw [decode?, encode, String.toList_ofList, decodeList?_encodeList]

end Hex
end SignedHttp
