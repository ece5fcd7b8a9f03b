import Mathlib.Data.List.Perm.Basic
import Mathlib.Data.Multiset.ZeroCons
import SignedHttp.Proofs.Current.SignedText
import SignedHttp.Proofs.Query.Normal
import SignedHttp.Proofs.Utf8

/-!
# The octets of a query

A query stands for names and values that are sequences of octets: an escape is one octet, a plus
sign is a space, and every other character is what it is written as in UTF-8.  The normal form is
made of the texts that these octets are read as (`Query.pairs_eq_map_octetPairs`), and octets that
are not UTF-8 are read with replacement characters.

* `Percent.decodeList_eq`: decoding percent escapes is reading the octets, run by run or all at
  once.
* `Query.exists_octetPairs`: every list of pairs of octets has a query.
* `Query.octets_determined_iff`: the normal form, and with it the signed text, determines the octets
  of a query exactly when they are read without any replacement character.

`Query.not_forall_octetPairs_perm` gives two queries whose octets differ while their normal forms do
not, so one can take the place of the other under one signature.
-/

set_option autoImplicit false

namespace SignedHttp

/-! ## Escapes as octets -/

namespace Percent

/-- The octets that a text stands for. -/
def octets : List Char → Octets
  | [] => []
  | '%' :: high :: low :: rest =>
    match Hex.value? high, Hex.value? low with
    | some x, some y => UInt8.ofNat (x * 16 + y) :: octets rest
    | _, _ => 0x25 :: octets (high :: low :: rest)
  | c :: rest => String.utf8EncodeChar c ++ octets rest

/-- The run that is being read may as well be read together with all that follows: a character
that is no ASCII begins anew in either case. -/
theorem decodeFrom_eq (run : Octets) (cs : List Char) :
    decodeFrom run cs = Utf8.decodeLossy (run.reverse ++ octets cs) := by
  fun_induction decodeFrom run cs with
  | case1 run => rw [octets, List.append_nil]
  | case2 run high low rest x y hlow hhigh ih =>
    rw [ih, octets, hhigh, hlow, List.reverse_cons, List.append_assoc, List.singleton_append]
  | case3 run high low rest hdigits ih =>
    have hoctets : octets ('%' :: high :: low :: rest) = 0x25 :: octets (high :: low :: rest) := by
      rw [octets]
      split
      · next x y hx hy => exact (hdigits x y hx hy).elim
      · rfl
    rw [ih, hoctets, List.reverse_cons, List.append_assoc, List.singleton_append]
  | case4 run c rest hpattern hascii ih =>
    rw [ih, octets, Utf8.utf8EncodeChar_of_ascii hascii, List.reverse_cons, List.append_assoc]
    exact hpattern
  | case5 run c rest hpattern hascii ih =>
    rw [ih, octets, Utf8.decodeLossy_append_encodeChar, List.reverse_nil, List.nil_append]
    exact hpattern

/-- **Decoding is reading the octets.** -/
theorem decodeList_eq (cs : List Char) : decodeList cs = Utf8.decodeLossy (octets cs) :=
  decodeFrom_eq [] cs

theorem octets_encodeByte (b : UInt8) (rest : List Char) :
    octets (encodeByte b ++ rest) = b :: octets rest := by
  have hb : b.toNat < 256 := b.toNat_lt
  have h : UInt8.ofNat (b.toNat / 16 * 16 + b.toNat % 16) = b := by
    rw [Nat.div_add_mod', UInt8.ofNat_toNat]
  show octets ('%' :: Hex.upperDigit _ :: Hex.upperDigit _ :: rest) = _
  rw [octets, Hex.value?_upperDigit _ (by omega), Hex.value?_upperDigit _ (by omega)]
  simp only [h]

/-- Octets may be written as nothing but escapes. -/
theorem octets_flatMap_encodeByte (bytes : Octets) : octets (bytes.flatMap encodeByte) = bytes := by
  induction bytes with
  | nil => rfl
  | cons b bytes ih => rw [List.flatMap_cons, octets_encodeByte, ih]

theorem not_mem_flatMap_encodeByte {c : Char} (hc : isUnreserved c = false) (hpercent : c ≠ '%')
    (bytes : Octets) : c ∉ bytes.flatMap encodeByte := by
  intro hmem
  obtain ⟨b, -, hmem⟩ := List.mem_flatMap.1 hmem
  rcases isWritten_of_mem_encodeByte hmem with h | h
  · exact absurd h (by simp [hc])
  · exact hpercent h

end Percent

namespace Query

/-! ## Pairs of octets -/

/-- The octets of a name or a value. -/
def componentOctets (cs : List Char) : Octets :=
  Percent.octets (cs.map fun c => if c = '+' then ' ' else c)

/-- The pairs of octets that a query stands for. -/
def octetPairs (query : String) : List (Octets × Octets) :=
  (rawPairs query).map (Prod.map componentOctets componentOctets)

/-- The texts that a pair of octets is read as. -/
def readPair (p : Octets × Octets) : String × String :=
  (String.ofList (Utf8.decodeLossy p.1), String.ofList (Utf8.decodeLossy p.2))

theorem decodeComponent_eq (cs : List Char) :
    decodeComponent cs = String.ofList (Utf8.decodeLossy (componentOctets cs)) := by
  rw [decodeComponent, Percent.decodeList_eq, componentOctets]

/-- **The pairs of a query are read from its octets.** -/
theorem pairs_eq_map_octetPairs (query : String) :
    pairs query = (octetPairs query).map readPair := by
  rw [pairs_eq, octetPairs, List.map_map]
  refine List.map_congr_left fun p _ => ?_
  exact Prod.ext (decodeComponent_eq p.1) (decodeComponent_eq p.2)

theorem componentOctets_flatMap_encodeByte (bytes : Octets) :
    componentOctets (bytes.flatMap Percent.encodeByte) = bytes := by
  have hplus : (bytes.flatMap Percent.encodeByte).map (fun c => if c = '+' then ' ' else c) =
      bytes.flatMap Percent.encodeByte := by
    refine (List.map_congr_left fun c hc => if_neg ?_).trans (List.map_id _)
    rintro rfl
    exact Percent.not_mem_flatMap_encodeByte (by decide) (by decide) bytes hc
  rw [componentOctets, hplus, Percent.octets_flatMap_encodeByte]

/-- **Every list of pairs of octets has a query.** -/
theorem exists_octetPairs (ps : List (Octets × Octets)) : ∃ query, octetPairs query = ps := by
  have hequals := Percent.not_mem_flatMap_encodeByte (c := '=') (by decide) (by decide)
  have hand := Percent.not_mem_flatMap_encodeByte (c := '&') (by decide) (by decide)
  let raw := ps.map (Prod.map (·.flatMap Percent.encodeByte) (·.flatMap Percent.encodeByte))
  refine ⟨String.ofList (['&'].intercalate (raw.map joinRaw)), ?_⟩
  have hraw : rawPairs (String.ofList (['&'].intercalate (raw.map joinRaw))) = raw :=
    rawPairs_join (List.forall_mem_map.2 fun p _ => hequals p.1)
      (List.forall_mem_map.2 fun p _ => ⟨hand p.1, hand p.2⟩) (String.toList_ofList)
  rw [octetPairs, hraw, List.map_map]
  refine (List.map_congr_left fun p _ => ?_).trans (List.map_id ps)
  exact Prod.ext (componentOctets_flatMap_encodeByte p.1) (componentOctets_flatMap_encodeByte p.2)

/-! ## What the texts leave open -/

section Image

variable {α β : Type} {f : α → β}

theorem eq_of_map_eq {l m : List α} (honly : ∀ a ∈ l, ∀ b, f b = f a → b = a)
    (h : m.map f = l.map f) : m = l := by
  induction l generalizing m with
  | nil => exact List.map_eq_nil_iff.1 h
  | cons a l ih =>
    obtain ⟨b, rest, rfl, hb, hrest⟩ := List.map_eq_cons_iff.1 h
    rw [honly a List.mem_cons_self b hb, ih (fun c hc => honly c (.tail a hc)) hrest]

/-- **A list is determined by its image, up to its order, exactly when each of its elements is.** -/
theorem perm_of_map_perm_iff {l : List α} :
    (∀ m : List α, (l.map f).Perm (m.map f) → l.Perm m) ↔ ∀ a ∈ l, ∀ b, f b = f a → b = a := by
  constructor
  · intro h a ha b hb
    obtain ⟨front, back, rfl⟩ := List.append_of_mem ha
    -- put the other element in its place
    have hperm := h (front ++ b :: back) (by simp [hb])
    rw [List.perm_append_left_iff] at hperm
    exact ((Multiset.cons_inj_left (back : Multiset α)).1 (Multiset.coe_eq_coe.2 hperm)).symm
  · intro honly m hperm
    have hcomp : Relation.Comp (· = List.map f ·) List.Perm (m.map f) l := by
      rw [List.eq_map_comp_perm]
      exact hperm.symm
    obtain ⟨k, hk, hkl⟩ := hcomp
    rw [eq_of_map_eq (fun a ha => honly a (hkl.mem_iff.1 ha)) hk]
    exact hkl.symm

end Image

/-- No octets of the query are replaced when they are read. -/
def Faithful (query : String) : Prop :=
  ∀ p ∈ pairs query, Utf8.replacement ∉ p.1.toList ∧ Utf8.replacement ∉ p.2.toList

theorem readPair_eq_iff {p q : Octets × Octets} :
    readPair q = readPair p ↔ Utf8.decodeLossy q.1 = Utf8.decodeLossy p.1 ∧
      Utf8.decodeLossy q.2 = Utf8.decodeLossy p.2 := by
  rw [readPair, readPair, Prod.mk.injEq, String.ofList_inj, String.ofList_inj]

theorem readPair_determines_iff {p : Octets × Octets} :
    (∀ q, readPair q = readPair p → q = p) ↔
      Utf8.replacement ∉ Utf8.decodeLossy p.1 ∧ Utf8.replacement ∉ Utf8.decodeLossy p.2 := by
  rw [← Utf8.determined_iff, ← Utf8.determined_iff]
  constructor
  · intro h
    constructor
    · intro other hother
      exact congrArg Prod.fst (h (other, p.2) (readPair_eq_iff.2 ⟨hother, rfl⟩))
    · intro other hother
      exact congrArg Prod.snd (h (p.1, other) (readPair_eq_iff.2 ⟨rfl, hother⟩))
  · rintro ⟨hname, hvalue⟩ q hq
    obtain ⟨hq1, hq2⟩ := readPair_eq_iff.1 hq
    exact Prod.ext (hname q.1 hq1) (hvalue q.2 hq2)

theorem faithful_iff {query : String} :
    Faithful query ↔ ∀ p ∈ octetPairs query, ∀ q, readPair q = readPair p → q = p := by
  rw [Faithful, pairs_eq_map_octetPairs, List.forall_mem_map]
  refine forall₂_congr fun p _ => ?_
  rw [readPair_determines_iff, readPair, String.toList_ofList, String.toList_ofList]

theorem normalize_eq_iff_octetPairs {query query' : String} :
    normalize query = normalize query' ↔
      ((octetPairs query).map readPair).Perm ((octetPairs query').map readPair) := by
  rw [normalize_eq_iff, pairs_eq_map_octetPairs, pairs_eq_map_octetPairs]

/-- **The normal form determines the octets of a query exactly when none of them are replaced.** -/
theorem normalize_determines_iff {query : String} :
    (∀ query', normalize query = normalize query' →
      (octetPairs query).Perm (octetPairs query')) ↔ Faithful query := by
  rw [faithful_iff, ← perm_of_map_perm_iff]
  constructor
  · intro h m hperm
    obtain ⟨query', rfl⟩ := exists_octetPairs m
    exact h query' (normalize_eq_iff_octetPairs.2 hperm)
  · intro h query' hnormal
    exact h (octetPairs query') (normalize_eq_iff_octetPairs.1 hnormal)

end Query

/-! ## The signed text -/

namespace Text

/-- Two joined lists that differ in one part only are told apart by it. -/
theorem intercalate_append_cons_inj {sep x y : List Char} {front back : List (List Char)} :
    sep.intercalate (front ++ x :: back) = sep.intercalate (front ++ y :: back) ↔ x = y := by
  rw [intercalate_append (by simp), intercalate_append (by simp), List.append_cancel_left_eq]
  cases back with
  | nil => rw [List.intercalate_singleton, List.intercalate_singleton]
  | cons z back =>
    rw [List.intercalate_cons_cons, List.intercalate_cons_cons, List.append_cancel_right_eq,
      List.append_cancel_right_eq]

end Text

namespace CurrentScheme

variable {r : Request} {a : Authorization} {text : Octets}

/-- **Another query goes unnoticed exactly when it has the same normal form.** -/
theorem signedText_query_iff (h : signedText r a = .ok text) (query : String) :
    signedText { r with query := query } a = .ok text ↔
      Query.normalize r.query = Query.normalize query := by
  obtain ⟨hrequired, rfl⟩ := signedText_eq_ok_iff.1 h
  -- the query fills one line, and neither the others nor the needed header fields depend on it
  obtain ⟨front, back, hlines⟩ : ∃ front back, ∀ query,
      lines { r with query := query } a = front ++ Query.normalize query :: back :=
    ⟨[Text.upper r.method, Text.lower r.host, normalizePath r.path], (lines r a).drop 4,
      fun _ => rfl⟩
  have hjoin : "\n".intercalate (lines { r with query := query } a) =
      "\n".intercalate (lines r a) ↔ Query.normalize query = Query.normalize r.query := by
    rw [← String.toList_inj, String.toList_intercalate, String.toList_intercalate, hlines,
      hlines r.query, List.map_append, List.map_append, List.map_cons, List.map_cons,
      Text.intercalate_append_cons_inj, String.toList_inj]
  rw [signedText_eq_ok_iff]
  refine ⟨fun ⟨_, htext⟩ => ?_, fun hnormal => ⟨hrequired, ?_⟩⟩
  · exact (hjoin.1 (Utf8.encode_inj htext).symm).symm
  · exact congrArg Utf8.encode (hjoin.2 hnormal.symm).symm

end CurrentScheme

namespace Query

/-- **What the normal form says about the octets of a query.**  It says which texts they are read
as, each pair as often as it is there.  So it determines the octets up to the order of the pairs
exactly when no part of them is replaced in reading, and the same holds of the text that is signed
for a request with this query. -/
theorem octets_determined_iff (query : String) :
    (∀ query', normalize query = normalize query' ↔
      ((octetPairs query).map readPair).Perm ((octetPairs query').map readPair)) ∧
    ((∀ query', normalize query = normalize query' →
      (octetPairs query).Perm (octetPairs query')) ↔ Faithful query) ∧
    ∀ r a text, r.query = query → CurrentScheme.signedText r a = .ok text →
      ((∀ query', CurrentScheme.signedText { r with query := query' } a = .ok text →
        (octetPairs query).Perm (octetPairs query')) ↔ Faithful query) := by
  refine ⟨fun query' => normalize_eq_iff_octetPairs, normalize_determines_iff, ?_⟩
  rintro r a text rfl htext
  rw [← normalize_determines_iff]
  exact forall_congr' fun query' =>
    imp_congr_left (CurrentScheme.signedText_query_iff htext query')

/-! An octet that is not UTF-8 stands in the value of one parameter, so another such octet can take
its place in a request that has been signed. -/

def brokenRequest : Request := { CurrentScheme.sampleRequest with query := "file=%FF" }

theorem broken_undetermined :
    (∃ text, CurrentScheme.signedText brokenRequest CurrentScheme.sampleAuthorization = .ok text ∧
      ¬∀ query', CurrentScheme.signedText { brokenRequest with query := query' }
        CurrentScheme.sampleAuthorization = .ok text →
          (octetPairs "file=%FF").Perm (octetPairs query')) := by
  have htext : CurrentScheme.signedText brokenRequest CurrentScheme.sampleAuthorization = .ok _ :=
    CurrentScheme.signedText_eq_ok_iff.2 ⟨by decide, rfl⟩
  refine ⟨_, htext, fun hdetermined => ?_⟩
  have hfaithful := ((octets_determined_iff "file=%FF").2.2 _ _ _ rfl htext).1 hdetermined
  have hmem : ("file", "\uFFFD") ∈ pairs "file=%FF" := by decide
  exact (hfaithful _ hmem).2 (by decide)

theorem not_forall_octetPairs_perm :
    ¬∀ query query', normalize query = normalize query' →
      (octetPairs query).Perm (octetPairs query') := by
  intro h
  have hperm := h "file=%FF" "file=%FE" (normalize_eq_iff.2 (.of_eq (by decide)))
  have hFF : (Utf8.encode "file", [0xFF]) ∈ octetPairs "file=%FF" := by decide
  exact absurd (hperm.mem_iff.1 hFF) (by decide)

end Query
end SignedHttp
