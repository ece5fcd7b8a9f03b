import Mathlib.Data.List.Dedup
import SignedHttp.Proofs.Percent
import SignedHttp.Proofs.Text
import SignedHttp.Query

/-!
# Pairs in a row

A pair is written with an equals sign between two encoded texts, and ampersands stand between
pairs.  Encoding writes neither of the two, so a row of pairs can be taken apart again
(`Query.joinPairs_inj`), and it has no line breaks (`Query.not_mem_joinPairs`).

* `Query.Legible.pairs_join`: a row of pairs is read back, whatever way of writing names and values
  is used, as long as it keeps clear of the separators.  The way of forms is one of them
  (`Query.pairs_encodePairs`).
* `Query.normalize_eq_of_perm`: the order of the pairs does not matter to the normal form.
* `Query.Groups.perm`: grouping pairs by name changes nothing but their order.
-/

set_option autoImplicit false

namespace SignedHttp
namespace Query

theorem encodePair_inj {p q : String × String} (h : encodePair p = encodePair q) : p = q := by
  have hequals := Percent.not_mem_encode (c := '=') (by decide) (by decide)
  obtain ⟨hname, hvalue⟩ := Text.append_sep_inj rfl (hequals p.1) (hequals q.1) h
  exact Prod.ext (Percent.encode_inj hname) (Percent.encode_inj hvalue)

theorem not_mem_encodePair {c : Char} (hc : Percent.isUnreserved c = false) (hpercent : c ≠ '%')
    (hequals : c ≠ '=') (p : String × String) : c ∉ (encodePair p).toList := by
  have hencode := Percent.not_mem_encode hc hpercent
  simp [encodePair, hencode, hequals]

/-- Pairs as a normal form writes them. -/
def joinPairs (ps : List (String × String)) : String := "&".intercalate (ps.map encodePair)

theorem normalize_eq (query : String) : normalize query = joinPairs (sortPairs (pairs query)) := rfl

/-- A row of pairs holds nothing but what encoding writes, equals signs and ampersands. -/
theorem not_mem_joinPairs {c : Char} (hc : Percent.isUnreserved c = false) (hpercent : c ≠ '%')
    (hequals : c ≠ '=') (hand : c ≠ '&') (ps : List (String × String)) :
    c ∉ (joinPairs ps).toList :=
  Text.not_mem_join (by simpa using hand)
    (List.forall_mem_map.2 fun p _ => not_mem_encodePair hc hpercent hequals p)

/-- **Pairs are found again in their row.** -/
theorem joinPairs_inj {ps qs : List (String × String)} (hps : ps ≠ []) (hqs : qs ≠ [])
    (h : joinPairs ps = joinPairs qs) : ps = qs := by
  have hand (rs : List (String × String)) : ∀ part ∈ rs.map encodePair, '&' ∉ part.toList :=
    List.forall_mem_map.2 fun p _ => not_mem_encodePair (by decide) (by decide) (by decide) p
  have hparts := Text.join_inj (by rfl) (hand ps) (hand qs) (by simpa using hps)
    (by simpa using hqs) h
  exact (List.map_inj_right fun _ _ => encodePair_inj).1 hparts

/-! ## Reading pairs back

Reading decodes names and values after it has cut them out, so what cutting does is said of the
texts between the separators. -/

/-- The two sides of a piece as they are written. -/
def rawPair (piece : List Char) : List Char × List Char :=
  (Text.cutFirst '=' piece).getD (piece, [])

/-- The names and values of a query as they are written. -/
def rawPairs (query : String) : List (List Char × List Char) :=
  ((Text.pieces (· == '&') query.toList).filter (!·.isEmpty)).map rawPair

theorem decodePair_eq (piece : List Char) :
    decodePair piece = (rawPair piece).map decodeComponent decodeComponent := by
  rw [decodePair, rawPair]
  cases Text.cutFirst '=' piece with
  | none => rfl
  | some p => rfl

theorem pairs_eq (query : String) :
    pairs query = (rawPairs query).map (Prod.map decodeComponent decodeComponent) := by
  rw [pairs, pairsList, rawPairs, List.map_map]
  exact List.map_congr_left fun piece _ => decodePair_eq piece

/-- A pair with the sign that separates its sides. -/
def joinRaw (p : List Char × List Char) : List Char := p.1 ++ '=' :: p.2

/-- **A row of pairs is cut where it was joined**, if names and values have no separators. -/
theorem rawPairs_join {ps : List (List Char × List Char)} (hequals : ∀ p ∈ ps, '=' ∉ p.1)
    (hand : ∀ p ∈ ps, '&' ∉ p.1 ∧ '&' ∉ p.2) {query : String}
    (hquery : query.toList = ['&'].intercalate (ps.map joinRaw)) : rawPairs query = ps := by
  by_cases hne : ps = []
  · rw [rawPairs, hquery, hne]
    rfl
  have hpieces : Text.pieces (· == '&') query.toList = ps.map joinRaw := by
    rw [hquery]
    refine Text.pieces_intercalate (by decide) (by simpa using hne) ?_
    refine List.forall_mem_map.2 fun p hp c hc => ?_
    rw [beq_eq_false_iff_ne]
    rintro rfl
    rw [joinRaw, List.mem_append, List.mem_cons] at hc
    rcases hc with hc | heq | hc
    · exact (hand p hp).1 hc
    · exact absurd heq (by decide)
    · exact (hand p hp).2 hc
  -- the equals sign keeps a piece from being blank
  have hfull : ∀ piece ∈ ps.map joinRaw, (!piece.isEmpty) = true :=
    List.forall_mem_map.2 fun p _ => by simp [joinRaw]
  rw [rawPairs, hpieces, List.filter_eq_self.2 hfull, List.map_map]
  refine (List.map_congr_left fun p hp => ?_).trans (List.map_id ps)
  show rawPair (joinRaw p) = p
  rw [rawPair, joinRaw, Text.cutFirst_append (hequals p hp)]
  rfl

/-- A way to write names and values that can be read back between the separators of a query. -/
structure Legible (write : String → String) : Prop where
  read : ∀ s, decodeComponent (write s).toList = s
  equals : ∀ s, '=' ∉ (write s).toList
  ampersand : ∀ s, '&' ∉ (write s).toList

/-- A pair in a way of writing. -/
def writePair (write : String → String) (p : String × String) : String :=
  write p.1 ++ "=" ++ write p.2

theorem toList_writePair (write : String → String) (p : String × String) :
    (writePair write p).toList = (write p.1).toList ++ '=' :: (write p.2).toList := by
  rw [writePair, String.toList_append, String.toList_append, List.append_assoc]
  rfl

/-- **A row of pairs is read back.** -/
theorem Legible.pairs_join {write : String → String} (h : Legible write)
    (ps : List (String × String)) : pairs ("&".intercalate (ps.map (writePair write))) = ps := by
  have hraw : rawPairs ("&".intercalate (ps.map (writePair write))) =
      ps.map (Prod.map (fun s => (write s).toList) fun s => (write s).toList) := by
    refine rawPairs_join (List.forall_mem_map.2 fun p _ => h.equals p.1)
      (List.forall_mem_map.2 fun p _ => ⟨h.ampersand p.1, h.ampersand p.2⟩) ?_
    rw [String.toList_intercalate, List.map_map, List.map_map]
    exact congrArg _ (List.map_congr_left fun p _ => toList_writePair write p)
  rw [pairs_eq, hraw, List.map_map]
  refine (List.map_congr_left fun p _ => ?_).trans (List.map_id ps)
  exact Prod.ext (h.read p.1) (h.read p.2)

theorem legible_encodePlus : Legible Percent.encodePlus where
  read s := by
    rw [decodeComponent, Percent.encodePlus, String.toList_ofList,
      Percent.decodeList_encodePlusList, String.ofList_toList]
  equals := Percent.not_mem_encodePlus (by decide) (by decide) (by decide)
  ampersand := Percent.not_mem_encodePlus (by decide) (by decide) (by decide)

/-- **What a form writes is read back**, pair by pair. -/
theorem pairs_encodePairs (ps : List (String × String)) : pairs (encodePairs ps) = ps :=
  legible_encodePlus.pairs_join ps

/-! ## The order of pairs -/

section Order

variable {p q r : String × String} {ps qs : List (String × String)}

theorem pairLe_iff : pairLe p q = true ↔ p.1 < q.1 ∨ p.1 = q.1 ∧ p.2 ≤ q.2 := by
  simp [pairLe]

theorem pairLe_trans (hpq : pairLe p q = true) (hqr : pairLe q r = true) : pairLe p r = true := by
  rw [pairLe_iff] at hpq hqr ⊢
  rcases hpq with hpq | ⟨hname, hpq⟩
  · rcases hqr with hqr | ⟨hname, -⟩
    · exact .inl (String.lt_trans hpq hqr)
    · exact .inl (hname ▸ hpq)
  · rcases hqr with hqr | ⟨hname', hqr⟩
    · exact .inl (hname ▸ hqr)
    · exact .inr ⟨hname.trans hname', String.le_trans hpq hqr⟩

theorem pairLe_total : (pairLe p q || pairLe q p) = true := by
  rw [Bool.or_eq_true, pairLe_iff, pairLe_iff]
  by_cases hlt : p.1 < q.1
  · exact .inl (.inl hlt)
  by_cases hgt : q.1 < p.1
  · exact .inr (.inl hgt)
  have hname : p.1 = q.1 := String.le_antisymm (String.not_lt.1 hgt) (String.not_lt.1 hlt)
  rcases String.le_total p.2 q.2 with hvalue | hvalue
  · exact .inl (.inr ⟨hname, hvalue⟩)
  · exact .inr (.inr ⟨hname.symm, hvalue⟩)

theorem pairLe_antisymm (hpq : pairLe p q = true) (hqp : pairLe q p = true) : p = q := by
  rw [pairLe_iff] at hpq hqp
  rcases hpq with hpq | ⟨hname, hpq⟩
  · rcases hqp with hqp | ⟨hname, -⟩
    · exact absurd hqp (String.lt_asymm hpq)
    · exact absurd hpq (hname ▸ String.lt_irrefl q.1)
  · rcases hqp with hqp | ⟨-, hqp⟩
    · exact absurd hqp (hname ▸ String.lt_irrefl p.1)
    · exact Prod.ext hname (String.le_antisymm hpq hqp)

theorem sortPairs_perm (ps : List (String × String)) : (sortPairs ps).Perm ps :=
  List.mergeSort_perm ps pairLe

theorem pairwise_sortPairs (ps : List (String × String)) :
    (sortPairs ps).Pairwise fun p q => pairLe p q = true :=
  @List.pairwise_mergeSort _ pairLe (fun _ _ _ => pairLe_trans) (fun _ _ => pairLe_total) ps

/-- Sorting forgets the order in which pairs are given. -/
theorem sortPairs_eq_of_perm (h : ps.Perm qs) : sortPairs ps = sortPairs qs := by
  refine List.Perm.eq_of_pairwise (fun _ _ _ _ => pairLe_antisymm) (pairwise_sortPairs ps)
    (pairwise_sortPairs qs) ?_
  exact (sortPairs_perm ps).trans (h.trans (sortPairs_perm qs).symm)

theorem sortPairs_eq_of_pairwise (h : ps.Perm qs)
    (hsorted : qs.Pairwise fun p q => pairLe p q = true) : sortPairs ps = qs := by
  rw [sortPairs_eq_of_perm h]
  exact List.mergeSort_of_pairwise hsorted

/-- **Queries with the same pairs in any order have one normal form.** -/
theorem normalize_eq_of_perm {query query' : String} (h : (pairs query).Perm (pairs query')) :
    normalize query = normalize query' := by
  rw [normalize_eq, normalize_eq, sortPairs_eq_of_perm h]

end Order

/-! ## Pairs in groups -/

/-- The values that pairs have for a name, in their order. -/
def valuesOf (ps : List (String × String)) (name : String) : List String :=
  (ps.filter (·.1 == name)).map (·.2)

/-- Each name of some pairs once, with all its values. -/
structure Groups (ps : List (String × String)) (groups : List (String × List String)) : Prop where
  distinct : (groups.map (·.1)).Nodup
  names : ∀ p ∈ ps, p.1 ∈ groups.map (·.1)
  values : ∀ g ∈ groups, g.2 = valuesOf ps g.1

theorem map_valuesOf (ps : List (String × String)) (name : String) :
    (valuesOf ps name).map (name, ·) = ps.filter (·.1 == name) := by
  rw [valuesOf, List.map_map]
  refine (List.map_congr_left fun p hp => ?_).trans (List.map_id _)
  exact Prod.ext (beq_iff_eq.1 (List.mem_filter.1 hp).2).symm rfl

/-- Pairs by their names. -/
def grouped (ps : List (String × String)) : List (String × List String) :=
  (ps.map (·.1)).dedup.map fun name => (name, valuesOf ps name)

theorem map_fst_grouped (ps : List (String × String)) :
    (grouped ps).map (·.1) = (ps.map (·.1)).dedup := by
  rw [grouped, List.map_map]
  exact List.map_id _

theorem groups_grouped (ps : List (String × String)) : Groups ps (grouped ps) where
  distinct := by
    rw [map_fst_grouped]
    exact List.nodup_dedup _
  names := by
    intro p hp
    rw [map_fst_grouped, List.mem_dedup]
    exact List.mem_map_of_mem hp
  values := List.forall_mem_map.2 fun _ _ => rfl

/-- Pairs are sorted into names one name at a time. -/
theorem flatMap_filter_perm {names : List String} (hnames : names.Nodup)
    (ps : List (String × String)) :
    (names.flatMap fun name => ps.filter (·.1 == name)).Perm (ps.filter (names.contains ·.1)) := by
  induction names with
  | nil => simp
  | cons name names ih =>
    rw [List.nodup_cons] at hnames
    have hsplit := List.filter_append_perm (·.1 == name) (ps.filter ((name :: names).contains ·.1))
    have hname : (ps.filter ((name :: names).contains ·.1)).filter (·.1 == name) =
        ps.filter (·.1 == name) := by
      rw [List.filter_filter]
      refine List.filter_congr fun p _ => ?_
      cases hp : p.1 == name <;> simp_all
    have hrest : (ps.filter ((name :: names).contains ·.1)).filter (fun p => !(p.1 == name)) =
        ps.filter (names.contains ·.1) := by
      rw [List.filter_filter]
      refine List.filter_congr fun p _ => ?_
      cases hp : p.1 == name <;> simp_all
    rw [hname, hrest] at hsplit
    rw [List.flatMap_cons]
    exact ((ih hnames.2).append_left _).trans hsplit

/-- **Grouping changes nothing but the order of the pairs.** -/
theorem Groups.perm {ps : List (String × String)} {groups : List (String × List String)}
    (h : Groups ps groups) : (groups.flatMap fun g => g.2.map (g.1, ·)).Perm ps := by
  have hgroups : (groups.flatMap fun g => g.2.map (g.1, ·)) =
      (groups.map (·.1)).flatMap fun name => ps.filter (·.1 == name) := by
    rw [List.flatMap_map, List.flatMap_def, List.flatMap_def]
    refine congrArg List.flatten (List.map_congr_left fun g hg => ?_)
    rw [h.values g hg, map_valuesOf]
  have hall : ps.filter ((groups.map (·.1)).contains ·.1) = ps :=
    List.filter_eq_self.2 fun p hp => List.contains_iff_mem.2 (h.names p hp)
  have hperm := flatMap_filter_perm h.distinct ps
  rwa [hall, ← hgroups] at hperm

end Query
end SignedHttp
