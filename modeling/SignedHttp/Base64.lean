import SignedHttp.Text.Utf8

/-!
# Base 64

* `Base64.encode`: the written form of octets.
* `Base64.decodeStrict?`: reads exactly the alphabet and the padding. Superfluous padding after
  complete groups and bits left over in the last group are accepted.
* `Base64.decode`: the lenient reading, which passes over foreign characters and stops at the
  padding.

The strict reading gives back what was written (`decodeStrict?_encode`).
-/

set_option autoImplicit false

namespace SignedHttp
namespace Base64

/-- The character of a number below 64. -/
def digit (n : Nat) : Char :=
  Char.ofNat (if n < 26 then 0x41 + n else if n < 52 then 0x47 + n else if n < 62 then n - 4
    else if n = 62 then 0x2B else 0x2F)

def value? (c : Char) : Option Nat :=
  let n := c.toNat
  if 0x41 ≤ n && n ≤ 0x5A then some (n - 0x41)
  else if 0x61 ≤ n && n ≤ 0x7A then some (n - 0x47)
  else if 0x30 ≤ n && n ≤ 0x39 then some (n + 4)
  else if n = 0x2B then some 62
  else if n = 0x2F then some 63
  else none

def encodeList : Octets → List Char
  | [] => []
  | [a] => [digit (a.toNat / 4), digit (a.toNat % 4 * 16), '=', '=']
  | [a, b] =>
    [digit (a.toNat / 4), digit (a.toNat % 4 * 16 + b.toNat / 16), digit (b.toNat % 16 * 4), '=']
  | a :: b :: c :: rest =>
    digit (a.toNat / 4) :: digit (a.toNat % 4 * 16 + b.toNat / 16) ::
      digit (b.toNat % 16 * 4 + c.toNat / 64) :: digit (c.toNat % 64) :: encodeList rest

def encode (bytes : Octets) : String := String.ofList (encodeList bytes)

/-- The octet that two values of six bits begin with. -/
def firstOctet (w x : Nat) : UInt8 := UInt8.ofNat (w * 4 + x / 16)

def secondOctet (x y : Nat) : UInt8 := UInt8.ofNat (x % 16 * 16 + y / 4)

def thirdOctet (y z : Nat) : UInt8 := UInt8.ofNat (y % 4 * 64 + z)

/-! ## The strict reading -/

/-- Reads groups of four; padding may follow a complete group in any amount. -/
def decodeGroups? : List Char → Option Octets
  | a :: b :: c :: d :: rest =>
    match value? a, value? b, value? c, value? d with
    | some w, some x, some y, some z =>
      (decodeGroups? rest).map fun bytes =>
        firstOctet w x :: secondOctet x y :: thirdOctet y z :: bytes
    | some w, some x, some y, none =>
      if d = '=' && rest.isEmpty then some [firstOctet w x, secondOctet x y] else none
    | some w, some x, none, none =>
      if c = '=' && d = '=' && rest.isEmpty then some [firstOctet w x] else none
    | _, _, _, _ => if (a :: b :: c :: d :: rest).all (· == '=') then some [] else none
  | rest => if rest.all (· == '=') then some [] else none

def decodeStrictList? : List Char → Option Octets
  | '=' :: _ => none
  | cs => decodeGroups? cs

def decodeStrict? (s : String) : Option Octets := decodeStrictList? s.toList

/-! ## The lenient reading -/

inductive DecodeError
  | notAscii
  | danglingCharacter (count : Nat)
  | incorrectPadding
  deriving DecidableEq, Repr

def DecodeError.message : DecodeError → String
  | .notAscii => "string argument should contain only ASCII characters"
  | .danglingCharacter count =>
    s!"Invalid base64-encoded string: number of data characters ({count})" ++
      " cannot be 1 more than a multiple of 4"
  | .incorrectPadding => "Incorrect padding"

/-- The octets of an unfinished group. -/
def heldOctets : List Nat → Octets
  | [w, x] => [firstOctet w x]
  | [w, x, y] => [firstOctet w x, secondOctet x y]
  | _ => []

/-- Reads with the values of the open group, the padding seen in it and the number of data
characters at hand. -/
def decodeFrom (held : List Nat) (pads count : Nat) : List Char → Except DecodeError Octets
  | [] =>
    match held.length with
    | 0 => .ok []
    | 1 => .error (.danglingCharacter count)
    | _ => .error .incorrectPadding
  | c :: rest =>
    if c = '=' then
      if held.length < 2 then decodeFrom held pads count rest
      else if held.length + (pads + 1) < 4 then decodeFrom held (pads + 1) count rest
      else .ok (heldOctets held)
    else
      match value? c with
      | none => decodeFrom held pads count rest
      | some z =>
        match held with
        | [w, x, y] =>
          (decodeFrom [] 0 (count + 1) rest).map fun bytes =>
            firstOctet w x :: secondOctet x y :: thirdOctet y z :: bytes
        | _ => decodeFrom (held ++ [z]) 0 (count + 1) rest

def decode (s : String) : Except DecodeError Octets :=
  if s.toList.all (·.toNat < 128) then decodeFrom [] 0 0 s.toList else .error .notAscii

/-! ## Reading what was written -/

theorem value?_digit : ∀ n < 64, value? (digit n) = some n := by decide

theorem digit_ne_pad : ∀ n < 64, digit n ≠ '=' := by decide

theorem firstOctet_eq (a : UInt8) (n : Nat) (h : n < 16) :
    firstOctet (a.toNat / 4) (a.toNat % 4 * 16 + n) = a := by
  rw [firstOctet, show a.toNat / 4 * 4 + (a.toNat % 4 * 16 + n) / 16 = a.toNat by omega]
  exact UInt8.ofNat_toNat

theorem secondOctet_eq (b : UInt8) (m n : Nat) (h : n < 4) :
    secondOctet (m * 16 + b.toNat / 16) (b.toNat % 16 * 4 + n) = b := by
  have hb : b.toNat < 256 := b.toNat_lt
  rw [secondOctet, show (m * 16 + b.toNat / 16) % 16 * 16 + (b.toNat % 16 * 4 + n) / 4 = b.toNat by
    omega]
  exact UInt8.ofNat_toNat

theorem thirdOctet_eq (c : UInt8) (m : Nat) :
    thirdOctet (m * 4 + c.toNat / 64) (c.toNat % 64) = c := by
  have hc : c.toNat < 256 := c.toNat_lt
  rw [thirdOctet, show (m * 4 + c.toNat / 64) % 4 * 64 + c.toNat % 64 = c.toNat by omega]
  exact UInt8.ofNat_toNat

theorem decodeGroups?_encodeList (bytes : Octets) :
    decodeGroups? (encodeList bytes) = some bytes := by
  fun_induction encodeList bytes with
  | case1 => rfl
  | case2 a =>
    have ha : a.toNat < 256 := a.toNat_lt
    have h : firstOctet (a.toNat / 4) (a.toNat % 4 * 16) = a := firstOctet_eq a 0 (by decide)
    rw [decodeGroups?, value?_digit _ (by omega), value?_digit _ (by omega)]
    simp [value?, h]
  | case3 a b =>
    have ha : a.toNat < 256 := a.toNat_lt
    have hb : b.toNat < 256 := b.toNat_lt
    have h : secondOctet (a.toNat % 4 * 16 + b.toNat / 16) (b.toNat % 16 * 4) = b :=
      secondOctet_eq b _ 0 (by decide)
    rw [decodeGroups?, value?_digit _ (by omega), value?_digit _ (by omega),
      value?_digit _ (by omega)]
    simp [value?, h, firstOctet_eq a (b.toNat / 16) (by omega)]
  | case4 a b c rest ih =>
    have ha : a.toNat < 256 := a.toNat_lt
    have hb : b.toNat < 256 := b.toNat_lt
    have hc : c.toNat < 256 := c.toNat_lt
    rw [decodeGroups?, value?_digit _ (by omega), value?_digit _ (by omega),
      value?_digit _ (by omega), value?_digit _ (by omega)]
    simp [ih, firstOctet_eq a (b.toNat / 16) (by omega),
      secondOctet_eq b (a.toNat % 4) (c.toNat / 64) (by omega), thirdOctet_eq c (b.toNat % 16)]

theorem head?_encodeList_ne (bytes : Octets) : (encodeList bytes).head? ≠ some '=' := by
  have h (a : UInt8) : digit (a.toNat / 4) ≠ '=' := by
    have ha : a.toNat < 256 := a.toNat_lt
    exact digit_ne_pad _ (by omega)
  cases bytes using encodeList.fun_cases <;> simp [encodeList, h]

/-- The strict reading accepts what is written, and gives it back. -/
theorem decodeStrict?_encode (bytes : Octets) : decodeStrict? (encode bytes) = some bytes := by
  rw [decodeStrict?, encode, String.toList_ofList, decodeStrictList?]
  · exact decodeGroups?_encodeList bytes
  · intro tail htail
    exact head?_encodeList_ne bytes (by rw [htail]; rfl)

end Base64
end SignedHttp
