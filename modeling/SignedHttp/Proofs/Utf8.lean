import SignedHttp.Proofs.Octets

/-!
# What reading octets as text forgets

Octets that are not UTF-8 can be read all the same, because each ill-formed part becomes a
replacement character.  This file says where one character ends and the next begins, and what is
lost on the way:

* `Utf8.decodeFrom_append_encodeChar`: no sequence extends over the beginning of a character that
  was written, whatever stands before it.
* `Utf8.eq_encodeList_of_not_mem`: octets that are read without replacement are those that the text
  is written as.
* `Utf8.determined_iff`: the text determines the octets exactly when it has no replacement
  character.  With one, there are always other octets that are read as the same text.
-/

set_option autoImplicit false

namespace SignedHttp
namespace Utf8

/-! ## Where a character begins

The octets that may continue a sequence lie between `0x80` and `0xBF`, and no character begins with
one of them. -/

/-- The next octet of a sequence is one that continues sequences. -/
def Sequence.Bounded (s : Sequence) : Prop := 0x80 ≤ s.least ∧ s.greatest ≤ 0xBF

theorem bounded_of_mem_lead {b : Nat} : ∀ s ∈ (lead b).2, s.Bounded := by
  intro s hs
  simp only [lead] at hs
  split at hs
  · simp at hs
  split at hs
  · simp at hs
  split at hs
  · obtain rfl := Option.some.inj hs
    exact ⟨Nat.le_refl _, Nat.le_refl _⟩
  split at hs
  · obtain rfl := Option.some.inj hs
    constructor
    · dsimp only
      split <;> decide
    · dsimp only
      split <;> decide
  split at hs
  · obtain rfl := Option.some.inj hs
    constructor
    · dsimp only
      split <;> decide
    · dsimp only
      split <;> decide
  · simp at hs

theorem bounded_of_mem_extend {s : Sequence} {b : Nat} : ∀ t ∈ (s.extend b).2, t.Bounded := by
  intro t ht
  simp only [Sequence.extend] at ht
  split at ht
  · simp at ht
  · obtain rfl := Option.some.inj ht
    exact ⟨Nat.le_refl _, Nat.le_refl _⟩

theorem bounded_of_mem_advance {pending : Option Sequence} {b : Nat} :
    ∀ s ∈ (advance pending b).2, s.Bounded := by
  cases pending with
  | none => exact bounded_of_mem_lead
  | some t =>
    rw [advance]
    split
    · exact bounded_of_mem_extend
    · exact bounded_of_mem_lead

/-- An octet that continues nothing breaks off whatever is open. -/
theorem decodeFrom_of_start {pending : Option Sequence} (hpending : ∀ s ∈ pending, s.Bounded)
    {b : UInt8} (hb : b.toNat < 0x80 ∨ 0xBF < b.toNat) (rest : Octets) :
    decodeFrom pending (b :: rest) = decodeFrom pending [] ++ decodeFrom none (b :: rest) := by
  cases pending with
  | none => rfl
  | some s =>
    obtain ⟨hleast, hgreatest⟩ := hpending s rfl
    have hout : (s.least ≤ b.toNat && b.toNat ≤ s.greatest) = false := by
      rw [Bool.and_eq_false_iff, decide_eq_false_iff_not, decide_eq_false_iff_not]
      omega
    have hstep : advance (some s) b.toNat =
        (replacement :: (lead b.toNat).1, (lead b.toNat).2) := by
      rw [advance, if_neg (by simp [hout])]
    show (advance (some s) b.toNat).1 ++ decodeFrom (advance (some s) b.toNat).2 rest = _
    rw [hstep]
    rfl

theorem exists_utf8EncodeChar (c : Char) :
    ∃ b rest, String.utf8EncodeChar c = b :: rest ∧ (b.toNat < 0x80 ∨ 0xBF < b.toNat) := by
  have hvalid : c.val.toNat < 0xD800 ∨ 0xDFFF < c.val.toNat ∧ c.val.toNat < 0x110000 := c.valid
  unfold String.utf8EncodeChar
  generalize c.val.toNat = v at *
  extract_lets
  split
  · refine ⟨_, _, rfl, .inl ?_⟩
    rw [UInt8.toNat_ofNat']
    omega
  split
  · refine ⟨_, _, rfl, .inr ?_⟩
    rw [UInt8.toNat_ofNat']
    omega
  split
  · refine ⟨_, _, rfl, .inr ?_⟩
    rw [UInt8.toNat_ofNat']
    omega
  · refine ⟨_, _, rfl, .inr ?_⟩
    rw [UInt8.toNat_ofNat']
    omega

/-- **Where a character begins, reading begins anew**, whatever stands before it. -/
theorem decodeFrom_append_encodeChar {pending : Option Sequence}
    (hpending : ∀ s ∈ pending, s.Bounded) (front : Octets) (c : Char) (rest : Octets) :
    decodeFrom pending (front ++ (String.utf8EncodeChar c ++ rest)) =
      decodeFrom pending front ++ c :: decodeFrom none rest := by
  induction front generalizing pending with
  | nil =>
    obtain ⟨b, tail, hc, hb⟩ := exists_utf8EncodeChar c
    have hread := decodeFrom_utf8EncodeChar c rest
    rw [hc] at hread
    rw [List.nil_append, hc, List.cons_append, decodeFrom_of_start hpending hb]
    exact congrArg _ hread
  | cons b front ih =>
    rw [List.cons_append, decodeFrom, decodeFrom, ih bounded_of_mem_advance, List.append_assoc]

theorem decodeLossy_append_encodeChar (front : Octets) (c : Char) (rest : Octets) :
    decodeLossy (front ++ (String.utf8EncodeChar c ++ rest)) =
      decodeLossy front ++ c :: decodeLossy rest :=
  decodeFrom_append_encodeChar (by simp) front c rest

/-! ## Reading without replacement -/

/-- A sequence that is not replaced goes on with an octet in its bounds. -/
theorem exists_of_not_mem {s : Sequence} {bytes : Octets}
    (h : replacement ∉ decodeFrom (some s) bytes) :
    ∃ b rest, bytes = b :: rest ∧ s.least ≤ b.toNat ∧ b.toNat ≤ s.greatest := by
  cases bytes with
  | nil => exact absurd List.mem_cons_self h
  | cons b rest =>
    refine ⟨b, rest, rfl, ?_⟩
    rw [decodeFrom, advance] at h
    by_cases hb : (s.least ≤ b.toNat && b.toNat ≤ s.greatest) = true
    · rwa [Bool.and_eq_true, decide_eq_true_eq, decide_eq_true_eq] at hb
    · rw [if_neg hb] at h
      exact absurd List.mem_cons_self h

/-- While more than one octet is owed, the sequence stays open. -/
theorem exists_of_owed {bits owed least greatest : Nat} {bytes : Octets}
    (h : replacement ∉ decodeFrom (some ⟨bits, owed + 2, least, greatest⟩) bytes) :
    ∃ b rest, bytes = b :: rest ∧ least ≤ b.toNat ∧ b.toNat ≤ greatest ∧
      decodeFrom (some ⟨bits, owed + 2, least, greatest⟩) bytes =
        decodeFrom (some ⟨bits * 64 + b.toNat % 64, owed + 1, 0x80, 0xBF⟩) rest := by
  obtain ⟨b, rest, rfl, hb, hb'⟩ := exists_of_not_mem h
  refine ⟨b, rest, rfl, hb, hb', ?_⟩
  rw [decodeFrom, advance_of_owed (by simp) hb hb']
  rfl

/-- The last octet that is owed makes the character. -/
theorem exists_of_owed_one {bits least greatest : Nat} {bytes : Octets}
    (h : replacement ∉ decodeFrom (some ⟨bits, 1, least, greatest⟩) bytes) :
    ∃ b rest, bytes = b :: rest ∧ least ≤ b.toNat ∧ b.toNat ≤ greatest ∧
      decodeFrom (some ⟨bits, 1, least, greatest⟩) bytes =
        Char.ofNat (bits * 64 + b.toNat % 64) :: decodeFrom none rest := by
  obtain ⟨b, rest, rfl, hb, hb'⟩ := exists_of_not_mem h
  refine ⟨b, rest, rfl, hb, hb', ?_⟩
  rw [decodeFrom, advance_of_owed_one rfl hb hb']
  rfl

theorem val_ofNat {n : Nat} (h : n.isValidChar) : (Char.ofNat n).val.toNat = n := by
  have hchar : Char.ofNat n = Char.ofNatAux n h := dif_pos h
  rw [hchar]
  rfl

section Characters

variable {a b c d : UInt8}

theorem ofNat_eq {n : Nat} (h : n = a.toNat) : UInt8.ofNat n = a := by
  rw [h, UInt8.ofNat_toNat]

theorem utf8EncodeChar_one (ha : a.toNat < 0x80) :
    String.utf8EncodeChar (Char.ofNat a.toNat) = [a] := by
  unfold String.utf8EncodeChar
  rw [val_ofNat (.inl (by omega))]
  extract_lets
  rw [if_pos (by omega), UInt8.ofNat_toNat]

theorem utf8EncodeChar_two (ha : 0xC2 ≤ a.toNat) (ha' : a.toNat < 0xE0) (hb : 0x80 ≤ b.toNat)
    (hb' : b.toNat ≤ 0xBF) :
    String.utf8EncodeChar (Char.ofNat ((a.toNat - 0xC0) * 64 + b.toNat % 64)) = [a, b] := by
  unfold String.utf8EncodeChar
  rw [val_ofNat (.inl (by omega))]
  extract_lets
  rw [if_neg (by omega), if_pos (by omega), ofNat_eq (a := a) (by omega),
    ofNat_eq (a := b) (by omega)]

/-- The bounds of the second octet leave out longer forms than needed, and surrogates. -/
theorem utf8EncodeChar_three (ha : 0xE0 ≤ a.toNat) (ha' : a.toNat < 0xF0)
    (hb : (if a.toNat = 0xE0 then 0xA0 else 0x80) ≤ b.toNat)
    (hb' : b.toNat ≤ if a.toNat = 0xED then 0x9F else 0xBF) (hc : 0x80 ≤ c.toNat)
    (hc' : c.toNat ≤ 0xBF) :
    String.utf8EncodeChar
      (Char.ofNat (((a.toNat - 0xE0) * 64 + b.toNat % 64) * 64 + c.toNat % 64)) = [a, b, c] := by
  have hlow : 0x80 ≤ b.toNat ∧ (a.toNat = 0xE0 → 0xA0 ≤ b.toNat) := by
    split at hb <;> omega
  have hhigh : b.toNat ≤ 0xBF ∧ (a.toNat = 0xED → b.toNat ≤ 0x9F) := by
    split at hb' <;> omega
  clear hb hb'
  unfold String.utf8EncodeChar
  rw [val_ofNat (by rw [Nat.isValidChar]; omega)]
  extract_lets
  rw [if_neg (by omega), if_neg (by omega), if_pos (by omega), ofNat_eq (a := a) (by omega),
    ofNat_eq (a := b) (by omega), ofNat_eq (a := c) (by omega)]

/-- The bounds of the second octet leave out longer forms than needed, and what is no code
point. -/
theorem utf8EncodeChar_four (ha : 0xF0 ≤ a.toNat) (ha' : a.toNat < 0xF5)
    (hb : (if a.toNat = 0xF0 then 0x90 else 0x80) ≤ b.toNat)
    (hb' : b.toNat ≤ if a.toNat = 0xF4 then 0x8F else 0xBF) (hc : 0x80 ≤ c.toNat)
    (hc' : c.toNat ≤ 0xBF) (hd : 0x80 ≤ d.toNat) (hd' : d.toNat ≤ 0xBF) :
    String.utf8EncodeChar (Char.ofNat ((((a.toNat - 0xF0) * 64 + b.toNat % 64) * 64 +
      c.toNat % 64) * 64 + d.toNat % 64)) = [a, b, c, d] := by
  have hlow : 0x80 ≤ b.toNat ∧ (a.toNat = 0xF0 → 0x90 ≤ b.toNat) := by
    split at hb <;> omega
  have hhigh : b.toNat ≤ 0xBF ∧ (a.toNat = 0xF4 → b.toNat ≤ 0x8F) := by
    split at hb' <;> omega
  clear hb hb'
  unfold String.utf8EncodeChar
  rw [val_ofNat (.inr ⟨by omega, by omega⟩)]
  extract_lets
  rw [if_neg (by omega), if_neg (by omega), if_neg (by omega), ofNat_eq (a := a) (by omega),
    ofNat_eq (a := b) (by omega), ofNat_eq (a := c) (by omega), ofNat_eq (a := d) (by omega)]

end Characters

/-- What a first octet means, sorted by the number of octets that go with it. -/
theorem lead_cases (n : Nat) :
    (n < 0x80 ∧ lead n = ([Char.ofNat n], none)) ∨
      (0xC2 ≤ n ∧ n < 0xE0 ∧ lead n = ([], some ⟨n - 0xC0, 1, 0x80, 0xBF⟩)) ∨
      (0xE0 ≤ n ∧ n < 0xF0 ∧ lead n = ([], some ⟨n - 0xE0, 2, if n = 0xE0 then 0xA0 else 0x80,
        if n = 0xED then 0x9F else 0xBF⟩)) ∨
      (0xF0 ≤ n ∧ n < 0xF5 ∧ lead n = ([], some ⟨n - 0xF0, 3, if n = 0xF0 then 0x90 else 0x80,
        if n = 0xF4 then 0x8F else 0xBF⟩)) ∨
      lead n = ([replacement], none) := by
  by_cases hone : n < 0x80
  · exact .inl ⟨hone, by rw [lead, if_pos hone]⟩
  by_cases hnone : n < 0xC2
  · exact .inr (.inr (.inr (.inr (by rw [lead, if_neg hone, if_pos hnone]))))
  by_cases htwo : n < 0xE0
  · exact .inr (.inl ⟨by omega, htwo, advance_none_two (by omega) htwo⟩)
  by_cases hthree : n < 0xF0
  · exact .inr (.inr (.inl ⟨by omega, hthree, advance_none_three (by omega) hthree⟩))
  by_cases hfour : n < 0xF5
  · exact .inr (.inr (.inr (.inl ⟨by omega, hfour, advance_none_four (by omega) hfour⟩)))
  · refine .inr (.inr (.inr (.inr ?_)))
    rw [lead, if_neg hone, if_neg hnone, if_neg htwo, if_neg hthree, if_neg hfour]

/-- What is read without replacement begins with the octets of its first character. -/
theorem exists_first_of_not_mem {a : UInt8} {rest : Octets}
    (h : replacement ∉ decodeFrom none (a :: rest)) :
    ∃ c tail, a :: rest = String.utf8EncodeChar c ++ tail ∧
      decodeFrom none (a :: rest) = c :: decodeFrom none tail := by
  have hfirst : decodeFrom none (a :: rest) =
      (lead a.toNat).1 ++ decodeFrom (lead a.toNat).2 rest := rfl
  rcases lead_cases a.toNat with ⟨ha, hlead⟩ | ⟨ha, ha', hlead⟩ | ⟨ha, ha', hlead⟩ |
    ⟨ha, ha', hlead⟩ | hlead
  · rw [hlead] at hfirst
    exact ⟨_, rest, by rw [utf8EncodeChar_one ha]; rfl, hfirst⟩
  · rw [hlead, List.nil_append] at hfirst
    obtain ⟨b, rest, rfl, hb, hb', hread⟩ := exists_of_owed_one (hfirst ▸ h)
    exact ⟨_, rest, by rw [utf8EncodeChar_two ha ha' hb hb']; rfl, hfirst.trans hread⟩
  · rw [hlead, List.nil_append] at hfirst
    obtain ⟨b, rest, rfl, hb, hb', hread⟩ := exists_of_owed (hfirst ▸ h)
    rw [hread] at hfirst
    obtain ⟨c, rest, rfl, hc, hc', hread⟩ := exists_of_owed_one (hfirst ▸ h)
    exact ⟨_, rest, by rw [utf8EncodeChar_three ha ha' hb hb' hc hc']; rfl, hfirst.trans hread⟩
  · rw [hlead, List.nil_append] at hfirst
    obtain ⟨b, rest, rfl, hb, hb', hread⟩ := exists_of_owed (hfirst ▸ h)
    rw [hread] at hfirst
    obtain ⟨c, rest, rfl, hc, hc', hread⟩ := exists_of_owed (hfirst ▸ h)
    rw [hread] at hfirst
    obtain ⟨d, rest, rfl, hd, hd', hread⟩ := exists_of_owed_one (hfirst ▸ h)
    exact ⟨_, rest, by rw [utf8EncodeChar_four ha ha' hb hb' hc hc' hd hd']; rfl,
      hfirst.trans hread⟩
  · rw [hfirst, hlead] at h
    exact absurd List.mem_cons_self h

/-- **Octets that are read without replacement are those that the text is written as.** -/
theorem eq_encodeList_of_not_mem {bytes : Octets} (h : replacement ∉ decodeFrom none bytes) :
    bytes = encodeList (decodeFrom none bytes) := by
  -- each character takes at least one octet off
  induction hlength : bytes.length using Nat.strongRecOn generalizing bytes with
  | ind n ih =>
    cases bytes with
    | nil => rfl
    | cons a rest =>
      obtain ⟨c, tail, hbytes, hread⟩ := exists_first_of_not_mem h
      obtain ⟨b, others, hc, -⟩ := exists_utf8EncodeChar c
      have hshort : tail.length < n := by
        rw [← hlength, hbytes, hc, List.cons_append, List.length_cons, List.length_append]
        omega
      rw [hread] at h ⊢
      have htail := ih _ hshort (fun hmem => h (.tail c hmem)) rfl
      rw [hbytes, encodeList, List.flatMap_cons]
      exact congrArg (String.utf8EncodeChar c ++ ·) htail

/-! ## What is lost -/

/-- An octet that is in no character stands for a replacement character, between any two texts. -/
theorem decodeLossy_broken {b : UInt8} (hb : 0xF5 ≤ b.toNat) (front back : List Char) :
    decodeLossy (encodeList front ++ b :: encodeList back) = front ++ replacement :: back := by
  have hlead : lead b.toNat = ([replacement], none) := by
    rw [lead, if_neg (by omega), if_neg (by omega), if_neg (by omega), if_neg (by omega),
      if_neg (by omega)]
  have hread : decodeFrom none (b :: encodeList back) =
      (lead b.toNat).1 ++ decodeFrom (lead b.toNat).2 (encodeList back) := rfl
  rw [decodeLossy, decodeFrom_encodeList, hread, hlead]
  exact congrArg (fun cs => front ++ replacement :: cs) (decodeLossy_encodeList back)

/-- **A text determines its octets exactly when it has no replacement character.** -/
theorem determined_iff {bytes : Octets} :
    (∀ other, decodeLossy other = decodeLossy bytes → other = bytes) ↔
      replacement ∉ decodeLossy bytes := by
  constructor
  · intro h hmem
    obtain ⟨front, back, htext⟩ := List.append_of_mem hmem
    -- two different ways to write a text with a replacement character cannot both be `bytes`
    have hFF := h _ ((decodeLossy_broken (b := 0xFF) (by decide) front back).trans htext.symm)
    have hFE := h _ ((decodeLossy_broken (b := 0xFE) (by decide) front back).trans htext.symm)
    have hsame := hFF.trans hFE.symm
    rw [List.append_cancel_left_eq, List.cons.injEq] at hsame
    exact absurd hsame.1 (by decide)
  · intro h other hother
    have hbytes : bytes = encodeList (decodeLossy bytes) := eq_encodeList_of_not_mem h
    have hclean : replacement ∉ decodeLossy other := hother ▸ h
    have hwritten : other = encodeList (decodeLossy other) := eq_encodeList_of_not_mem hclean
    rw [hwritten, hother, ← hbytes]

end Utf8
end SignedHttp
