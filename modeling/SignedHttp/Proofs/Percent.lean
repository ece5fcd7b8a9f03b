import Mathlib.Data.List.Basic
import SignedHttp.Percent
import SignedHttp.Proofs.Octets

/-!
# What percent-encoding keeps apart

Decoding undoes encoding for every text (`Percent.decode_encode`).  Three facts complete the
picture:

* `Percent.mem_encode`: an encoded text holds nothing but unreserved characters and percent signs,
  so no separator of any format around it.
* `Percent.decodeList_eq_self_iff`: a text that was *not* encoded survives decoding exactly when it
  has no escape.  Decoding never makes a text longer, and every escape makes it shorter.
* `Percent.decodeList_intercalate`: encoded texts may be joined by commas before they are decoded.

Forms write a plus sign for a space.  `Percent.decodeList_encodePlusList` undoes that as well.
-/

set_option autoImplicit false

namespace SignedHttp
namespace Percent

/-! ## The characters of an encoded text -/

/-- The characters that encoding writes. -/
def IsWritten (c : Char) : Prop := isUnreserved c = true ∨ c = '%'

theorem isUnreserved_upperDigit : ∀ n < 16, isUnreserved (Hex.upperDigit n) = true := by decide

theorem isWritten_of_mem_encodeByte {c : Char} {b : UInt8} (h : c ∈ encodeByte b) :
    IsWritten c := by
  have hb : b.toNat < 256 := b.toNat_lt
  simp only [encodeByte, List.mem_cons, List.not_mem_nil, or_false] at h
  rcases h with rfl | rfl | rfl
  · exact .inr rfl
  · exact .inl (isUnreserved_upperDigit _ (by omega))
  · exact .inl (isUnreserved_upperDigit _ (by omega))

theorem isWritten_of_mem_encodeChar {c d : Char} (h : c ∈ encodeChar d) : IsWritten c := by
  rw [encodeChar] at h
  split at h
  · next hd =>
    rw [List.mem_singleton] at h
    exact .inl (h ▸ hd)
  · obtain ⟨b, -, h⟩ := List.mem_flatMap.1 h
    exact isWritten_of_mem_encodeByte h

theorem mem_encode {c : Char} {s : String} (h : c ∈ (encode s).toList) : IsWritten c := by
  rw [encode, String.toList_ofList, encodeList, List.mem_flatMap] at h
  obtain ⟨d, -, h⟩ := h
  exact isWritten_of_mem_encodeChar h

/-- An encoded text has none of the characters that encoding does not write. -/
theorem not_mem_encode {c : Char} (hc : isUnreserved c = false) (hpercent : c ≠ '%')
    (s : String) : c ∉ (encode s).toList := by
  intro h
  rcases mem_encode h with h | h
  · exact absurd h (by simp [hc])
  · exact hpercent h

theorem encode_inj {s t : String} (h : encode s = encode t) : s = t := by
  rw [← decode_encode s, h, decode_encode]

/-! ## Texts that were not encoded -/

/-- A percent sign with two hexadecimal digits after it, somewhere in the text. -/
def HasEscape (cs : List Char) : Prop :=
  ∃ high low, ['%', high, low] <:+: cs ∧ (Hex.value? high).isSome ∧ (Hex.value? low).isSome

theorem HasEscape.cons {cs : List Char} (c : Char) (h : HasEscape cs) : HasEscape (c :: cs) := by
  obtain ⟨high, low, hfound, hdigits⟩ := h
  exact ⟨high, low, hfound.trans (List.suffix_cons c cs).isInfix, hdigits⟩

/-- An escape starts at the first character or lies beyond it. -/
theorem hasEscape_cons_iff {c : Char} {cs : List Char} :
    HasEscape (c :: cs) ↔ (∃ high low rest, c = '%' ∧ cs = high :: low :: rest ∧
      (Hex.value? high).isSome ∧ (Hex.value? low).isSome) ∨ HasEscape cs := by
  constructor
  · rintro ⟨high, low, hfound, hdigits⟩
    rcases List.infix_cons_iff.1 hfound with ⟨rest, hrest⟩ | hfound
    · simp only [List.cons_append, List.nil_append, List.cons.injEq] at hrest
      exact .inl ⟨high, low, rest, hrest.1.symm, hrest.2.symm, hdigits⟩
    · exact .inr ⟨high, low, hfound, hdigits⟩
  · rintro (⟨high, low, rest, rfl, rfl, hdigits⟩ | h)
    · exact ⟨high, low, List.infix_cons_iff.2 (.inl ⟨rest, rfl⟩), hdigits⟩
    · exact h.cons c

theorem length_decodeFrom_le (run : Octets) (cs : List Char) :
    (decodeFrom run cs).length ≤ run.length + cs.length := by
  fun_induction decodeFrom run cs with
  | case1 run => simpa using Utf8.length_decodeLossy_le run.reverse
  | case2 run high low rest x y hx hy ih =>
    simp only [List.length_cons] at ih ⊢
    omega
  | case3 run high low rest hdigits ih =>
    simp only [List.length_cons] at ih ⊢
    omega
  | case4 run c rest hpattern hascii ih =>
    simp only [List.length_cons] at ih ⊢
    omega
  | case5 run c rest hpattern hascii ih =>
    have hrun := Utf8.length_decodeLossy_le run.reverse
    simp only [List.length_append, List.length_cons, List.length_nil, List.length_reverse]
      at ih hrun ⊢
    omega

/-- **Every escape makes the text shorter.** -/
theorem length_decodeFrom_lt {run : Octets} {cs : List Char} (h : HasEscape cs) :
    (decodeFrom run cs).length < run.length + cs.length := by
  fun_induction decodeFrom run cs with
  | case1 run =>
    obtain ⟨high, low, hfound, -⟩ := h
    exact absurd (List.infix_nil.1 hfound) (by simp)
  | case2 run high low rest x y hx hy ih =>
    -- three characters make one octet, whatever follows them
    have hlength := length_decodeFrom_le (UInt8.ofNat (x * 16 + y) :: run) rest
    simp only [List.length_cons] at hlength ⊢
    omega
  | case3 run high low rest hdigits ih =>
    rcases hasEscape_cons_iff.1 h with ⟨high', low', rest', -, hcs, hhigh, hlow⟩ | h
    · obtain ⟨rfl, rfl, rfl⟩ : high = high' ∧ low = low' ∧ rest = rest' := by simpa using hcs
      obtain ⟨x, hx⟩ := Option.isSome_iff_exists.1 hhigh
      obtain ⟨y, hy⟩ := Option.isSome_iff_exists.1 hlow
      exact (hdigits x y hx hy).elim
    · have hlength := ih h
      simp only [List.length_cons] at hlength ⊢
      omega
  | case4 run c rest hpattern hascii ih =>
    rcases hasEscape_cons_iff.1 h with ⟨high, low, tail, hc, hrest, -⟩ | h
    · exact (hpattern high low tail hc hrest).elim
    · have hlength := ih h
      simp only [List.length_cons] at hlength ⊢
      omega
  | case5 run c rest hpattern hascii ih =>
    rcases hasEscape_cons_iff.1 h with ⟨high, low, tail, hc, hrest, -⟩ | h
    · exact (hpattern high low tail hc hrest).elim
    · have hlength := ih h
      have hrun := Utf8.length_decodeLossy_le run.reverse
      simp only [List.length_append, List.length_cons, List.length_nil, List.length_reverse]
        at hlength hrun ⊢
      omega

/-- Without escapes every run of ASCII characters is read as itself.  The run at hand is always
what some text `read` was written as. -/
theorem decodeFrom_of_not_hasEscape {run : Octets} {cs : List Char} (h : ¬HasEscape cs)
    {read : List Char} (hread : run = (Utf8.encodeList read).reverse) :
    decodeFrom run cs = read ++ cs := by
  fun_induction decodeFrom run cs generalizing read with
  | case1 run => rw [hread, List.reverse_reverse, Utf8.decodeLossy_encodeList, List.append_nil]
  | case2 run high low rest x y hlow hhigh ih =>
    refine absurd (hasEscape_cons_iff.2 (.inl ⟨high, low, rest, rfl, rfl, ?_, ?_⟩)) h
    · rw [hhigh]; rfl
    · rw [hlow]; rfl
  | case3 run high low rest hdigits ih =>
    have hnext : _ = (read ++ ['%']) ++ high :: low :: rest := ih (fun h' => h (h'.cons '%')) (by
      rw [Utf8.encodeList_append, List.reverse_append, hread]; rfl)
    rw [hnext, List.append_assoc, List.singleton_append]
  | case4 run c rest hpattern hascii ih =>
    have hnext : _ = (read ++ [c]) ++ rest := ih (fun h' => h (h'.cons c)) (by
      rw [Utf8.encodeList_append, List.reverse_append, hread, Utf8.encodeList, Utf8.encodeList,
        List.flatMap_cons, Utf8.utf8EncodeChar_of_ascii hascii]
      rfl)
    rw [hnext, List.append_assoc, List.singleton_append]
  | case5 run c rest hpattern hascii ih =>
    have hnext : _ = [] ++ rest := ih (fun h' => h (h'.cons c)) rfl
    rw [hnext, hread, List.reverse_reverse, Utf8.decodeLossy_encodeList, List.nil_append]

/-- **A text survives decoding exactly when it has no escape.** -/
theorem decodeList_eq_self_iff {cs : List Char} : decodeList cs = cs ↔ ¬HasEscape cs := by
  constructor
  · intro h hescape
    have hlength : (decodeFrom [] cs).length < _ := length_decodeFrom_lt hescape
    rw [show decodeFrom [] cs = cs from h] at hlength
    simp at hlength
  · intro h
    have hdecode : decodeFrom [] cs = [] ++ cs := decodeFrom_of_not_hasEscape h rfl
    exact hdecode

theorem length_decodeList_le (cs : List Char) : (decodeList cs).length ≤ cs.length := by
  have h := length_decodeFrom_le [] cs
  rwa [List.length_nil, Nat.zero_add] at h

theorem decode_of_not_hasEscape {s : String} (h : ¬HasEscape s.toList) : decode s = s := by
  rw [decode, decodeList_eq_self_iff.2 h, String.ofList_toList]

/-- An escape begins with a percent sign. -/
theorem not_hasEscape_of_not_mem {cs : List Char} (h : '%' ∉ cs) : ¬HasEscape cs := by
  rintro ⟨high, low, hfound, -⟩
  exact h (hfound.mem List.mem_cons_self)

/-! ## Encoded texts in a row -/

theorem decodeFrom_of_ascii (run : Octets) {c : Char} (hascii : c.toNat < 128) (hc : c ≠ '%')
    (rest : List Char) :
    decodeFrom run (c :: rest) = decodeFrom (UInt8.ofNat c.toNat :: run) rest := by
  rw [decodeFrom, if_pos hascii]
  intro high low tail hpercent
  exact absurd hpercent hc

theorem decodeFrom_intercalate (run : Octets) (parts : List (List Char)) :
    decodeFrom run ([','].intercalate (parts.map encodeList)) =
      decodeFrom ((Utf8.encodeList ([','].intercalate parts)).reverse ++ run) [] := by
  induction parts generalizing run with
  | nil => rfl
  | cons part parts ih =>
    cases parts with
    | nil =>
      have h := decodeFrom_encodeList run part []
      rw [List.append_nil] at h
      rw [List.map_singleton, List.intercalate_singleton, List.intercalate_singleton, h]
    | cons next parts =>
      rw [List.map_cons, List.map_cons, List.intercalate_cons_cons, List.append_assoc,
        decodeFrom_encodeList, List.singleton_append, decodeFrom_of_ascii _ (by decide) (by decide),
        ← List.map_cons, ih, List.intercalate_cons_cons, Utf8.encodeList_append,
        Utf8.encodeList_append, List.reverse_append, List.reverse_append, List.append_assoc,
        List.append_assoc]
      rfl

/-- Commas between encoded texts are read as commas between the texts. -/
theorem decodeList_intercalate (parts : List (List Char)) :
    decodeList ([','].intercalate (parts.map encodeList)) = [','].intercalate parts := by
  rw [decodeList, decodeFrom_intercalate, List.append_nil, decodeFrom, List.reverse_reverse,
    Utf8.decodeLossy_encodeList]

theorem decode_intercalate (parts : List String) :
    decode (",".intercalate (parts.map encode)) = ",".intercalate parts := by
  have hparts :
      (parts.map encode).map String.toList = (parts.map String.toList).map encodeList := by
    simp [encode, Function.comp_def]
  rw [decode, ← String.toList_inj, String.toList_ofList, String.toList_intercalate,
    String.toList_intercalate, hparts, show ",".toList = [','] from rfl, decodeList_intercalate]

/-! ## Texts in forms -/

theorem not_mem_encodePlus {c : Char} (hc : isUnreserved c = false) (hpercent : c ≠ '%')
    (hplus : c ≠ '+') (s : String) : c ∉ (encodePlus s).toList := by
  rw [encodePlus, String.toList_ofList, encodePlusList, List.mem_flatMap]
  rintro ⟨d, -, h⟩
  split at h
  · exact hplus (List.mem_singleton.1 h)
  · rcases isWritten_of_mem_encodeChar h with h | h
    · exact absurd h (by simp [hc])
    · exact hpercent h

/-- A text without spaces is written alike in both ways. -/
theorem encodePlus_eq_encode {s : String} (h : ' ' ∉ s.toList) : encodePlus s = encode s :=
  congrArg String.ofList (List.flatMap_congr fun _ hc => if_neg (ne_of_mem_of_not_mem hc h))

/-- **A plus sign is written for a space**, and for nothing else. -/
theorem plus_mem_encodePlus_iff {s : String} : '+' ∈ (encodePlus s).toList ↔ ' ' ∈ s.toList := by
  rw [encodePlus, String.toList_ofList, encodePlusList, List.mem_flatMap]
  constructor
  · rintro ⟨c, hc, hplus⟩
    split at hplus
    · next hspace => exact hspace ▸ hc
    · rcases isWritten_of_mem_encodeChar hplus with hplus | hplus
      · exact absurd hplus (by decide)
      · exact absurd hplus (by decide)
  · exact fun hspace => ⟨' ', hspace, List.mem_singleton_self '+'⟩

/-- A character as a form writes it, with its space put back. -/
def spacedChar (c : Char) : List Char := if c = ' ' then [' '] else encodeChar c

/-- Only the plus signs that stand for spaces are turned back into spaces. -/
theorem map_encodePlusList (cs : List Char) :
    (encodePlusList cs).map (fun c => if c = '+' then ' ' else c) = cs.flatMap spacedChar := by
  induction cs with
  | nil => rfl
  | cons c cs ih =>
    rw [encodePlusList] at ih ⊢
    rw [List.flatMap_cons, List.map_append, ih, List.flatMap_cons, spacedChar]
    congr 1
    split
    · rfl
    · refine (List.map_congr_left fun d hd => if_neg ?_).trans (List.map_id (encodeChar c))
      rintro rfl
      rcases isWritten_of_mem_encodeChar hd with hplus | hplus
      · exact absurd hplus (by decide)
      · exact absurd hplus (by decide)

theorem decodeFrom_spacedChar (run : Octets) (c : Char) (rest : List Char) :
    decodeFrom run (spacedChar c ++ rest) =
      decodeFrom ((String.utf8EncodeChar c).reverse ++ run) rest := by
  rw [spacedChar]
  split
  · next hspace =>
    rw [hspace, List.singleton_append, decodeFrom_of_ascii run (by decide) (by decide)]
    rfl
  · exact decodeFrom_encodeChar run c rest

/-- **What a form writes is read back.** -/
theorem decodeList_encodePlusList (cs : List Char) :
    decodeList ((encodePlusList cs).map fun c => if c = '+' then ' ' else c) = cs := by
  have h := decodeFrom_flatMap decodeFrom_spacedChar [] cs []
  rw [List.append_nil, List.append_nil] at h
  rw [map_encodePlusList, decodeList, h, decodeFrom, List.reverse_reverse,
    Utf8.decodeLossy_encodeList]

end Percent
end SignedHttp
