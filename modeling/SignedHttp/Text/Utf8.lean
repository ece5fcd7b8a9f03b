/-!
# UTF-8

* `Octets`: sequences of octets, the form in which messages are hashed.
* `Utf8.encode`: the octets of a text.
* `Utf8.decodeLossy`: the text of any octets, where each maximal part of an ill-formed sequence
  becomes one U+FFFD.

Octets that were written from a text are read back as that text (`decodeLossy_encodeList`).
-/

set_option autoImplicit false

namespace SignedHttp

abbrev Octets := List UInt8

namespace Utf8

def encodeList (cs : List Char) : Octets := cs.flatMap String.utf8EncodeChar

def encode (s : String) : Octets := encodeList s.toList

/-- What stands for octets that are not UTF-8. -/
def replacement : Char := Char.ofNat 0xFFFD

/-- A sequence that lacks octets: the bits read so far, how many octets are owed, and the least
and the greatest value that the next one may have. -/
structure Sequence where
  bits : Nat
  owed : Nat
  least : Nat
  greatest : Nat

/-- What a first octet gives: characters at once, or a sequence to be finished. The second octet
is bounded so that no character has two encodings and no surrogate has any. -/
def lead (b : Nat) : List Char × Option Sequence :=
  if b < 0x80 then ([Char.ofNat b], none)
  else if b < 0xC2 then ([replacement], none)
  else if b < 0xE0 then ([], some ⟨b - 0xC0, 1, 0x80, 0xBF⟩)
  else if b < 0xF0 then
    ([], some ⟨b - 0xE0, 2, if b = 0xE0 then 0xA0 else 0x80, if b = 0xED then 0x9F else 0xBF⟩)
  else if b < 0xF5 then
    ([], some ⟨b - 0xF0, 3, if b = 0xF0 then 0x90 else 0x80, if b = 0xF4 then 0x8F else 0xBF⟩)
  else ([replacement], none)

/-- What an octet gives after a sequence that it continues. -/
def Sequence.extend (s : Sequence) (b : Nat) : List Char × Option Sequence :=
  let bits := s.bits * 64 + b % 64
  if s.owed ≤ 1 then ([Char.ofNat bits], none) else ([], some ⟨bits, s.owed - 1, 0x80, 0xBF⟩)

/-- One octet: the characters that it settles, and the sequence that is open after it. -/
def advance (pending : Option Sequence) (b : Nat) : List Char × Option Sequence :=
  match pending with
  | none => lead b
  | some s =>
    if s.least ≤ b && b ≤ s.greatest then s.extend b
    else (replacement :: (lead b).1, (lead b).2)

def decodeFrom (pending : Option Sequence) : Octets → List Char
  | [] => if pending.isSome then [replacement] else []
  | b :: rest => (advance pending b.toNat).1 ++ decodeFrom (advance pending b.toNat).2 rest

def decodeLossy (bytes : Octets) : List Char := decodeFrom none bytes

/-! ## Reading what was written -/

theorem decodeFrom_ofNat (pending : Option Sequence) {n : Nat} (h : n < 256) (rest : Octets) :
    decodeFrom pending (UInt8.ofNat n :: rest) =
      (advance pending n).1 ++ decodeFrom (advance pending n).2 rest := by
  rw [decodeFrom, UInt8.toNat_ofNat', Nat.mod_eq_of_lt h]

theorem advance_of_owed_one {s : Sequence} {b : Nat} (owed : s.owed = 1) (h : s.least ≤ b)
    (h' : b ≤ s.greatest) :
    advance (some s) b = ([Char.ofNat (s.bits * 64 + b % 64)], none) := by
  simp [advance, Sequence.extend, owed, h, h']

theorem advance_of_owed {s : Sequence} {b : Nat} (owed : 1 < s.owed) (h : s.least ≤ b)
    (h' : b ≤ s.greatest) :
    advance (some s) b = ([], some ⟨s.bits * 64 + b % 64, s.owed - 1, 0x80, 0xBF⟩) := by
  simp [advance, Sequence.extend, Nat.not_le.2 owed, h, h']

theorem advance_none_two {b : Nat} (h : 0xC2 ≤ b) (h' : b < 0xE0) :
    advance none b = ([], some ⟨b - 0xC0, 1, 0x80, 0xBF⟩) := by
  rw [advance, lead, if_neg (by omega), if_neg (by omega), if_pos h']

theorem advance_none_three {b : Nat} (h : 0xE0 ≤ b) (h' : b < 0xF0) :
    advance none b = ([], some ⟨b - 0xE0, 2, if b = 0xE0 then 0xA0 else 0x80,
      if b = 0xED then 0x9F else 0xBF⟩) := by
  rw [advance, lead, if_neg (by omega), if_neg (by omega), if_neg (by omega), if_pos h']

theorem advance_none_four {b : Nat} (h : 0xF0 ≤ b) (h' : b < 0xF5) :
    advance none b = ([], some ⟨b - 0xF0, 3, if b = 0xF0 then 0x90 else 0x80,
      if b = 0xF4 then 0x8F else 0xBF⟩) := by
  rw [advance, lead, if_neg (by omega), if_neg (by omega), if_neg (by omega), if_neg (by omega),
    if_pos h']

/-- What a character is written as is read back as that character. -/
theorem decodeFrom_utf8EncodeChar (c : Char) (rest : Octets) :
    decodeFrom none (String.utf8EncodeChar c ++ rest) = c :: decodeFrom none rest := by
  have valid : c.val.toNat < 0xD800 ∨ 0xDFFF < c.val.toNat ∧ c.val.toNat < 0x110000 := c.valid
  have same : ∀ n, n = c.val.toNat → Char.ofNat n = c := fun n h => by
    rw [h]; exact Char.ofNat_toNat c
  unfold String.utf8EncodeChar
  generalize c.val.toNat = v at *
  extract_lets
  split
  · next h =>
    rw [List.singleton_append, decodeFrom_ofNat none (by omega), advance, lead, if_pos (by omega)]
    rw [same _ rfl]
    rfl
  · split
    · next h1 h2 =>
      rw [List.cons_append, decodeFrom_ofNat none (by omega),
        advance_none_two (by omega) (by omega), List.singleton_append,
        decodeFrom_ofNat _ (by omega), advance_of_owed_one rfl (by simp) (by simp only; omega)]
      rw [same _ (by simp only; omega)]
      rfl
    · split
      · next h1 h2 h3 =>
        rw [List.cons_append, decodeFrom_ofNat none (by omega),
          advance_none_three (by omega) (by omega), List.cons_append,
          decodeFrom_ofNat _ (by omega),
          advance_of_owed (by simp) (by simp only; split <;> omega) (by simp only; split <;> omega),
          List.singleton_append, decodeFrom_ofNat _ (by omega),
          advance_of_owed_one rfl (by simp) (by simp only; omega)]
        rw [same _ (by simp only; omega)]
        rfl
      · next h1 h2 h3 =>
        rw [List.cons_append, decodeFrom_ofNat none (by omega),
          advance_none_four (by omega) (by omega), List.cons_append,
          decodeFrom_ofNat _ (by omega),
          advance_of_owed (by simp) (by simp only; split <;> omega) (by simp only; split <;> omega),
          List.cons_append, decodeFrom_ofNat _ (by omega),
          advance_of_owed (by simp) (by simp) (by simp only; omega),
          List.singleton_append, decodeFrom_ofNat _ (by omega),
          advance_of_owed_one rfl (by simp) (by simp only; omega)]
        rw [same _ (by simp only; omega)]
        rfl

theorem decodeFrom_encodeList (cs : List Char) (rest : Octets) :
    decodeFrom none (encodeList cs ++ rest) = cs ++ decodeFrom none rest := by
  induction cs with
  | nil => rfl
  | cons c cs ih =>
    rw [encodeList, List.flatMap_cons, List.append_assoc, decodeFrom_utf8EncodeChar]
    exact congrArg (c :: ·) ih

/-- Octets that are written from a text give it back. -/
theorem decodeLossy_encodeList (cs : List Char) : decodeLossy (encodeList cs) = cs := by
  have h := decodeFrom_encodeList cs []
  rwa [List.append_nil, decodeFrom, if_neg (by decide), List.append_nil] at h

end Utf8
end SignedHttp
