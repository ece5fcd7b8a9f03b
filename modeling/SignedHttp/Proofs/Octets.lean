import SignedHttp.Digest.Algorithm
import SignedHttp.Text.Blank

/-!
# Octets and their written forms

* `Utf8.encode_inj`: the octets of a text determine it.
* `Utf8.length_decodeLossy_le`: octets are never read as more characters than there are octets.
* `Base64.decode_encode`: the lenient reading of base 64 gives back what was written.
* `Algorithm.macBase64_ne` and `Algorithm.mem_macBase64`: a signature is never blank, and it is
  written in the base 64 alphabet, so it can stand between quotes as it is, and after a colon.
-/

set_option autoImplicit false

namespace SignedHttp

/-! ## UTF-8 -/

namespace Utf8

theorem encodeList_inj {cs ds : List Char} (h : encodeList cs = encodeList ds) : cs = ds := by
  rw [← decodeLossy_encodeList cs, h, decodeLossy_encodeList]

theorem encode_inj {s t : String} (h : encode s = encode t) : s = t :=
  String.toList_inj.1 (encodeList_inj h)

theorem encodeList_append (cs ds : List Char) :
    encodeList (cs ++ ds) = encodeList cs ++ encodeList ds :=
  List.flatMap_append

/-- The characters that a reader still owes: one, if a sequence is open. -/
def owing (pending : Option Sequence) : Nat := if pending.isSome then 1 else 0

theorem length_lead (b : Nat) : (lead b).1.length + owing (lead b).2 ≤ 1 := by
  rw [lead]
  repeat' split
  all_goals simp [owing]

/-- One octet settles at most one character more than were owed. -/
theorem length_advance (pending : Option Sequence) (b : Nat) :
    (advance pending b).1.length + owing (advance pending b).2 ≤ owing pending + 1 := by
  cases pending with
  | none => exact length_lead b
  | some s =>
    rw [advance]
    split
    · rw [Sequence.extend]
      split <;> simp [owing]
    · have h := length_lead b
      simp only [List.length_cons, owing, Option.isSome_some, if_true] at h ⊢
      omega

theorem length_decodeFrom_le (pending : Option Sequence) (bytes : Octets) :
    (decodeFrom pending bytes).length ≤ owing pending + bytes.length := by
  induction bytes generalizing pending with
  | nil => cases pending <;> simp [decodeFrom, owing]
  | cons b bytes ih =>
    have hhead := length_advance pending b.toNat
    have htail := ih (advance pending b.toNat).2
    rw [decodeFrom, List.length_append, List.length_cons]
    omega

theorem length_decodeLossy_le (bytes : Octets) : (decodeLossy bytes).length ≤ bytes.length := by
  have h := length_decodeFrom_le none bytes
  rwa [owing, Option.isSome_none, if_neg (by decide), Nat.zero_add] at h

/-- An ASCII character is written as the octet of its number. -/
theorem utf8EncodeChar_of_ascii {c : Char} (h : c.toNat < 128) :
    String.utf8EncodeChar c = [UInt8.ofNat c.toNat] := by
  unfold String.utf8EncodeChar
  exact if_pos (Nat.le_of_lt_succ h)

/-- Every other character is written in octets that are no ASCII. -/
theorem le_of_mem_utf8EncodeChar {c : Char} (h : 128 ≤ c.toNat) :
    ∀ b ∈ String.utf8EncodeChar c, 128 ≤ b.toNat := by
  have hvalue : 128 ≤ c.val.toNat := h
  have hvalid : c.val.toNat < 0xD800 ∨ 0xDFFF < c.val.toNat ∧ c.val.toNat < 0x110000 := c.valid
  unfold String.utf8EncodeChar
  generalize c.val.toNat = v at *
  extract_lets
  repeat' split
  · omega
  all_goals
    simp only [List.forall_mem_cons, List.not_mem_nil, false_implies, implies_true, and_true,
      UInt8.toNat_ofNat']
    omega

theorem count_utf8EncodeChar {c : Char} (h : c.toNat < 128) (d : Char) :
    (String.utf8EncodeChar d).count (UInt8.ofNat c.toNat) = if d = c then 1 else 0 := by
  have hc : (UInt8.ofNat c.toNat).toNat = c.toNat := by
    rw [UInt8.toNat_ofNat']
    omega
  by_cases hd : d.toNat < 128
  · have hd' : (UInt8.ofNat d.toNat).toNat = d.toNat := by
      rw [UInt8.toNat_ofNat']
      omega
    have hiff : UInt8.ofNat d.toNat = UInt8.ofNat c.toNat ↔ d = c := by
      rw [← UInt8.toNat_inj, hc, hd', Char.toNat_inj]
    rw [utf8EncodeChar_of_ascii hd, List.count_singleton]
    simp only [beq_iff_eq, hiff]
  · rw [if_neg (by rintro rfl; exact hd h)]
    refine List.count_eq_zero_of_not_mem fun hmem => ?_
    have hle := le_of_mem_utf8EncodeChar (by omega) _ hmem
    omega

/-- **An ASCII character stands in the octets as often as in the text.** -/
theorem count_encodeList {c : Char} (h : c.toNat < 128) (cs : List Char) :
    (encodeList cs).count (UInt8.ofNat c.toNat) = cs.count c := by
  induction cs with
  | nil => rfl
  | cons d cs ih =>
    have hcons : encodeList (d :: cs) = String.utf8EncodeChar d ++ encodeList cs := rfl
    rw [hcons, List.count_append, count_utf8EncodeChar h, ih, List.count_cons, Nat.add_comm]
    simp only [beq_iff_eq]

end Utf8

/-! ## Hexadecimal -/

theorem Hex.exists_of_mem_encode {bytes : Octets} {c : Char} (h : c ∈ (Hex.encode bytes).toList) :
    ∃ n < 16, c = Hex.lowerDigit n := by
  rw [Hex.encode, String.toList_ofList, Hex.encodeList, List.mem_flatMap] at h
  obtain ⟨b, -, h⟩ := h
  have hb : b.toNat < 256 := b.toNat_lt
  simp only [List.mem_cons, List.not_mem_nil, or_false] at h
  rcases h with rfl | rfl
  · exact ⟨_, by omega, rfl⟩
  · exact ⟨_, by omega, rfl⟩

/-! ## Base 64 -/

namespace Base64

/-- The characters that base 64 is written in. -/
def IsWritten (c : Char) : Prop := c = '=' ∨ ∃ n < 64, c = digit n

theorem isWritten_of_mem_encodeList {bytes : Octets} {c : Char} (h : c ∈ encodeList bytes) :
    IsWritten c := by
  fun_induction encodeList bytes with
  | case1 => simp at h
  | case2 a =>
    have ha : a.toNat < 256 := a.toNat_lt
    simp only [List.mem_cons, List.not_mem_nil, or_false] at h
    rcases h with rfl | rfl | rfl | rfl
    · exact .inr ⟨_, by omega, rfl⟩
    · exact .inr ⟨_, by omega, rfl⟩
    · exact .inl rfl
    · exact .inl rfl
  | case3 a b =>
    have ha : a.toNat < 256 := a.toNat_lt
    have hb : b.toNat < 256 := b.toNat_lt
    simp only [List.mem_cons, List.not_mem_nil, or_false] at h
    rcases h with rfl | rfl | rfl | rfl
    · exact .inr ⟨_, by omega, rfl⟩
    · exact .inr ⟨_, by omega, rfl⟩
    · exact .inr ⟨_, by omega, rfl⟩
    · exact .inl rfl
  | case4 a b c rest ih =>
    have ha : a.toNat < 256 := a.toNat_lt
    have hb : b.toNat < 256 := b.toNat_lt
    have hc : c.toNat < 256 := c.toNat_lt
    simp only [List.mem_cons] at h
    rcases h with rfl | rfl | rfl | rfl | h
    · exact .inr ⟨_, by omega, rfl⟩
    · exact .inr ⟨_, by omega, rfl⟩
    · exact .inr ⟨_, by omega, rfl⟩
    · exact .inr ⟨_, by omega, rfl⟩
    · exact ih h

theorem digit_ne : ∀ n < 64, digit n ≠ '"' ∧ digit n ≠ '%' := by decide

theorem IsWritten.ne {c : Char} (h : IsWritten c) : c ≠ '"' ∧ c ≠ '%' := by
  rcases h with rfl | ⟨n, hn, rfl⟩
  · decide
  · exact digit_ne n hn

theorem digit_unspaced : ∀ n < 64, digit n ≠ ':' ∧ Text.isBlank (digit n) = false := by decide

/-- A written character separates nothing and is not trimmed away. -/
theorem IsWritten.unspaced {c : Char} (h : IsWritten c) : c ≠ ':' ∧ Text.isBlank c = false := by
  rcases h with rfl | ⟨n, hn, rfl⟩
  · decide
  · exact digit_unspaced n hn

/-- A text in base 64 that is not empty. -/
structure IsText (s : String) : Prop where
  ne : s ≠ ""
  written : ∀ c ∈ s.toList, IsWritten c

/-- Its last character is not trimmed away. -/
theorem IsText.isBlank_of_mem_getLast? {s : String} (h : IsText s) :
    ∀ c ∈ s.toList.getLast?, Text.isBlank c = false := fun c hc =>
  (h.written c (List.mem_of_getLast? hc)).unspaced.2

theorem digit_ascii : ∀ n < 64, (digit n).toNat < 128 := by decide

theorem IsWritten.ascii {c : Char} (h : IsWritten c) : c.toNat < 128 := by
  rcases h with rfl | ⟨n, hn, rfl⟩
  · decide
  · exact digit_ascii n hn

theorem encodeList_ne_nil {bytes : Octets} (h : bytes ≠ []) : encodeList bytes ≠ [] := by
  cases bytes using encodeList.fun_cases <;> simp_all [encodeList]

/-! ### The lenient reading

What is written is read group by group.  A group of fewer than three octets ends the reading at its
last pad. -/

theorem decodeFrom_digit {n pads count : Nat} {held : List Nat} (hn : n < 64)
    (hheld : held.length < 3) (rest : List Char) :
    decodeFrom held pads count (digit n :: rest) =
      decodeFrom (held ++ [n]) 0 (count + 1) rest := by
  rw [decodeFrom, if_neg (digit_ne_pad n hn), value?_digit n hn]
  dsimp only
  split
  · exact absurd hheld (by simp)
  · rfl

/-- The fourth digit completes a group. -/
theorem decodeFrom_group {w x y z count : Nat} (hw : w < 64) (hx : x < 64) (hy : y < 64)
    (hz : z < 64) (rest : List Char) :
    decodeFrom [] 0 count (digit w :: digit x :: digit y :: digit z :: rest) =
      (decodeFrom [] 0 (count + 4) rest).map fun bytes =>
        firstOctet w x :: secondOctet x y :: thirdOctet y z :: bytes := by
  rw [decodeFrom_digit hw (by simp), decodeFrom_digit hx (by simp), decodeFrom_digit hy (by simp),
    decodeFrom, if_neg (digit_ne_pad z hz), value?_digit z hz]
  rfl

theorem decodeFrom_encodeList (bytes : Octets) (count : Nat) :
    decodeFrom [] 0 count (encodeList bytes) = .ok bytes := by
  fun_induction encodeList bytes generalizing count with
  | case1 => rfl
  | case2 a =>
    have ha : a.toNat < 256 := a.toNat_lt
    have hfirst : firstOctet (a.toNat / 4) (a.toNat % 4 * 16) = a := firstOctet_eq a 0 (by decide)
    rw [decodeFrom_digit (by omega) (by simp), decodeFrom_digit (by omega) (by simp)]
    simp [decodeFrom, heldOctets, hfirst]
  | case3 a b =>
    have ha : a.toNat < 256 := a.toNat_lt
    have hb : b.toNat < 256 := b.toNat_lt
    have hfirst := firstOctet_eq a (b.toNat / 16) (by omega)
    have hsecond : secondOctet (a.toNat % 4 * 16 + b.toNat / 16) (b.toNat % 16 * 4) = b :=
      secondOctet_eq b _ 0 (by decide)
    rw [decodeFrom_digit (by omega) (by simp), decodeFrom_digit (by omega) (by simp),
      decodeFrom_digit (by omega) (by simp)]
    simp [decodeFrom, heldOctets, hfirst, hsecond]
  | case4 a b c rest ih =>
    have ha : a.toNat < 256 := a.toNat_lt
    have hb : b.toNat < 256 := b.toNat_lt
    have hc : c.toNat < 256 := c.toNat_lt
    rw [decodeFrom_group (by omega) (by omega) (by omega) (by omega), ih,
      firstOctet_eq a (b.toNat / 16) (by omega),
      secondOctet_eq b (a.toNat % 4) (c.toNat / 64) (by omega), thirdOctet_eq c (b.toNat % 16)]
    rfl

/-- The lenient reading gives back what is written, too. -/
theorem decode_encode (bytes : Octets) : decode (encode bytes) = .ok bytes := by
  have hascii : (encodeList bytes).all (·.toNat < 128) = true := by
    rw [List.all_eq_true]
    intro c hc
    exact decide_eq_true (isWritten_of_mem_encodeList hc).ascii
  rw [decode, encode, String.toList_ofList, if_pos hascii, decodeFrom_encodeList]

end Base64

/-! ## Signatures -/

namespace Algorithm

theorem hash_ne_nil (alg : Algorithm) (message : Octets) : alg.hash message ≠ [] := by
  have h : 0 < (alg.hash message).length := by
    cases alg with
    | md5 => simp [hash, Digest.length_md5]
    | sha1 => simp [hash, Digest.length_sha1]
    | sha224 => simp [hash, Digest.sha224, Digest.Sha2.length_hash]
    | sha256 => simp [hash, Digest.sha256, Digest.Sha2.length_hash]
    | sha384 => simp [hash, Digest.sha384, Digest.Sha2.length_hash]
    | sha512 => simp [hash, Digest.sha512, Digest.Sha2.length_hash]
  exact List.length_pos_iff.1 h

theorem macBase64_ne (alg : Algorithm) (key message : Octets) :
    alg.macBase64 key message ≠ "" := by
  rw [macBase64, Base64.encode, Ne, ← String.toList_inj, String.toList_ofList]
  exact Base64.encodeList_ne_nil (hash_ne_nil alg _)

theorem mem_macBase64 {alg : Algorithm} {key message : Octets} {c : Char}
    (h : c ∈ (alg.macBase64 key message).toList) : Base64.IsWritten c := by
  rw [macBase64, Base64.encode, String.toList_ofList] at h
  exact Base64.isWritten_of_mem_encodeList h

theorem isText_macBase64 (alg : Algorithm) (key message : Octets) :
    Base64.IsText (alg.macBase64 key message) :=
  ⟨macBase64_ne alg key message, fun _ h => mem_macBase64 h⟩

end Algorithm
end SignedHttp
