import SignedHttp.Proofs.Query
import SignedHttp.Proofs.Raw.Points
import SignedHttp.Raw.Scheme

/-!
# Queries with lone surrogates

A query is cut, decoded and sorted whatever it holds; only to write its names and values again it must
have no lone surrogate.  None gets lost on the way, so the query itself must have none
(`Raw.Query.exists_normalize_iff`).  On strings the normal form is that of `Query.normalize`
(`Raw.Query.normalize_ofString`).
-/

set_option autoImplicit false

namespace SignedHttp
namespace Points

theorem le_ofChars (cs ds : List Char) :
    le (ofChars cs) (ofChars ds) = true ↔ ¬List.Lex (· < ·) ds cs := by
  induction cs generalizing ds with
  | nil => exact iff_of_true rfl List.not_lex_nil
  | cons c cs ih =>
    cases ds with
    | nil => exact iff_of_false Bool.false_ne_true fun h => h .nil
    | cons d ds =>
      have hvalue : (Point.scalar c).value < (Point.scalar d).value ↔ c < d := Iff.rfl
      have hrest := ih ds
      simp only [ofChars, List.map_cons] at hrest ⊢
      rw [le, Bool.or_eq_true, Bool.and_eq_true, decide_eq_true_iff, hvalue, beq_iff_eq,
        Point.scalar.injEq, hrest, List.cons_lex_cons_iff]
      constructor
      · rintro (hlt | ⟨rfl, hlex⟩)
        · exact fun h => h.elim (Char.lt_asymm hlt) fun h => Char.ne_of_lt hlt h.1.symm
        · exact fun h => h.elim (Char.lt_irrefl c) fun h => hlex h.2
      · intro h
        rw [not_or, Char.not_lt] at h
        by_cases hcd : c = d
        · exact .inr ⟨hcd, fun hlex => h.2 ⟨hcd.symm, hlex⟩⟩
        · exact .inl (Std.lt_of_le_of_ne h.1 hcd)

/-- The order of strings is that of their code points. -/
theorem le_ofString (a b : String) : le (ofString a) (ofString b) = decide (a ≤ b) := by
  rw [Bool.eq_iff_iff, decide_eq_true_iff]
  exact le_ofChars a.toList b.toList

end Points

namespace Raw
namespace Query

open Points (ofString ofChars)

variable {query : Points}

/-! ## What is read -/

theorem isText_decodePair {piece : Points} :
    (decodePair piece).1.IsText ∧ (decodePair piece).2.IsText ↔ piece.IsText := by
  rw [decodePair]
  cases hcut : Text.cutFirst (Point.scalar '=') piece with
  | none => exact (and_iff_left Points.isText_nil).trans Points.isText_decodeForm
  | some p =>
    obtain ⟨name, value⟩ := p
    obtain ⟨rfl, -⟩ := Text.eq_of_cutFirst hcut
    rw [Points.isText_append, Points.isText_cons_scalar]
    exact and_congr Points.isText_decodeForm Points.isText_decodeForm

/-- **No surrogate gets lost in reading.** -/
theorem isText_pairs : (∀ p ∈ pairs query, p.1.IsText ∧ p.2.IsText) ↔ query.IsText := by
  have hflat := Text.flatten_pieces (· == Point.scalar '&') query
  rw [← List.flatten_filter_not_isEmpty] at hflat
  simp only [pairs, List.forall_mem_map, isText_decodePair]
  constructor
  · intro h p hp
    by_cases hsep : p = .scalar '&'
    · exact hsep ▸ rfl
    · have hmem : p ∈ query.filter (!· == Point.scalar '&') :=
        List.mem_filter.2 ⟨hp, by simpa using hsep⟩
      rw [← hflat, List.mem_flatten] at hmem
      obtain ⟨piece, hpiece, hp⟩ := hmem
      exact h piece hpiece p hp
  · intro h piece hpiece p hp
    have hmem := List.mem_flatten.2 ⟨piece, hpiece, hp⟩
    rw [hflat] at hmem
    exact h p (List.mem_filter.1 hmem).1

/-! ## What is written -/

theorem exists_encodePair_iff {p : Points × Points} :
    (∃ written, encodePair p = .ok written) ↔ p.1.IsText ∧ p.2.IsText := by
  rw [← Points.exists_quote_iff, ← Points.exists_quote_iff, encodePair]
  constructor
  · rintro ⟨written, h⟩
    obtain ⟨name, hname, h⟩ := bind_eq_ok_iff.1 h
    obtain ⟨value, hvalue, -⟩ := bind_eq_ok_iff.1 h
    exact ⟨⟨name, hname⟩, value, hvalue⟩
  · rintro ⟨⟨name, hname⟩, value, hvalue⟩
    exact ⟨_, bind_eq_ok_iff.2 ⟨name, hname, bind_eq_ok_iff.2 ⟨value, hvalue, rfl⟩⟩⟩

/-- **A query has a normal form when it has no lone surrogate.** -/
theorem exists_normalize_iff : (∃ written, normalize query = .ok written) ↔ query.IsText := by
  have hsorted : (∀ p ∈ sortPairs (pairs query), p.1.IsText ∧ p.2.IsText) ↔ query.IsText := by
    simp only [(List.mergeSort_perm (pairs query) pairLe).mem_iff, sortPairs, isText_pairs]
  rw [← hsorted]
  simp only [← exists_encodePair_iff, ← exists_mapM_eq_ok_iff, normalize]
  constructor
  · rintro ⟨written, h⟩
    obtain ⟨parts, hparts, -⟩ := bind_eq_ok_iff.1 h
    exact ⟨parts, hparts⟩
  · rintro ⟨parts, hparts⟩
    exact ⟨_, bind_eq_ok_iff.2 ⟨parts, hparts, rfl⟩⟩

/-! ## Strings -/

/-- A pair of strings. -/
def ofStrings (p : String × String) : Points × Points := (ofString p.1, ofString p.2)

theorem decodeForm_ofChars (cs : List Char) :
    Points.decodeForm (ofChars cs) = ofString (SignedHttp.Query.decodeComponent cs) := by
  rw [Points.decodeForm, Points.mapRuns_ofChars, SignedHttp.Query.decodeComponent, ofString,
    String.toList_ofList]

theorem cutFirst_ofChars (sep : Char) (cs : List Char) :
    Text.cutFirst (.scalar sep) (ofChars cs) =
      (Text.cutFirst sep cs).map fun p => (ofChars p.1, ofChars p.2) := by
  cases hcut : Text.cutFirst sep cs with
  | none =>
    rw [Option.map_none, Text.cutFirst_eq_none_iff]
    intro hmem
    obtain ⟨c, hc, heq⟩ := List.mem_map.1 hmem
    exact Text.cutFirst_eq_none_iff.1 hcut (Point.scalar.inj heq ▸ hc)
  | some p =>
    obtain ⟨front, back⟩ := p
    obtain ⟨rfl, hfront⟩ := Text.eq_of_cutFirst hcut
    rw [Points.ofChars_append]
    refine Text.cutFirst_append (fun hmem => ?_) (ofChars back)
    obtain ⟨c, hc, heq⟩ := List.mem_map.1 hmem
    exact hfront (Point.scalar.inj heq ▸ hc)

theorem decodePair_ofChars (piece : List Char) :
    decodePair (ofChars piece) = ofStrings (SignedHttp.Query.decodePair piece) := by
  rw [decodePair, cutFirst_ofChars, SignedHttp.Query.decodePair]
  cases Text.cutFirst '=' piece with
  | none => exact Prod.ext (decodeForm_ofChars piece) rfl
  | some p => exact Prod.ext (decodeForm_ofChars p.1) (decodeForm_ofChars p.2)

theorem pieces_ofChars (sep : Char) (cs : List Char) :
    Text.pieces (· == .scalar sep) (ofChars cs) =
      (Text.pieces (· == sep) cs).map ofChars := by
  induction cs with
  | nil => rfl
  | cons c cs ih =>
    have hsep : (Point.scalar c == .scalar sep) = (c == sep) := by
      rw [Bool.eq_iff_iff, beq_iff_eq, beq_iff_eq, Point.scalar.injEq]
    show Text.pieces (· == .scalar sep) (.scalar c :: ofChars cs) = _
    rw [Text.pieces, Text.pieces, hsep, ih]
    by_cases hc : (c == sep) = true
    · rw [if_pos hc, if_pos hc]
      rfl
    · rw [if_neg hc, if_neg hc]
      cases Text.pieces (· == sep) cs with
      | nil => rfl
      | cons piece others => rfl

theorem pairs_ofString (query : String) :
    pairs (ofString query) = (SignedHttp.Query.pairs query).map ofStrings := by
  have hfilter : (!·.isEmpty) ∘ ofChars = (!·.isEmpty) :=
    funext fun piece => congrArg (!·) List.isEmpty_map
  rw [pairs, ofString, pieces_ofChars, List.filter_map, hfilter, List.map_map,
    SignedHttp.Query.pairs, SignedHttp.Query.pairsList, List.map_map]
  exact List.map_congr_left fun piece _ => decodePair_ofChars piece

theorem pairLe_ofStrings (p q : String × String) :
    pairLe (ofStrings p) (ofStrings q) = SignedHttp.Query.pairLe p q := by
  rw [Bool.eq_iff_iff, SignedHttp.Query.pairLe_iff, pairLe, ofStrings, ofStrings]
  by_cases hname : p.1 = q.1
  · have hlt : ¬p.1 < q.1 := hname ▸ String.lt_irrefl q.1
    simp [hname, Points.le_ofString]
  · have hle : p.1 ≤ q.1 ↔ p.1 < q.1 :=
      ⟨fun h => String.not_le.1 fun h' => hname (String.le_antisymm h h'),
        fun h => String.not_lt.1 (String.lt_asymm h)⟩
    simp [hname, Points.ofString_inj, Points.le_ofString, hle]

theorem encodePair_ofStrings (p : String × String) :
    encodePair (ofStrings p) = .ok (SignedHttp.Query.encodePair p) := by
  rw [encodePair, ofStrings, Points.quote_ofString, Points.quote_ofString]
  rfl

/-- **The normal form of a string is that of the query.** -/
theorem normalize_ofString (query : String) :
    normalize (ofString query) = .ok (SignedHttp.Query.normalize query) := by
  have hsort : sortPairs (pairs (ofString query)) =
      (SignedHttp.Query.sortPairs (SignedHttp.Query.pairs query)).map ofStrings := by
    rw [sortPairs, pairs_ofString, SignedHttp.Query.sortPairs]
    exact (List.map_mergeSort fun p _ q _ => (pairLe_ofStrings p q).symm).symm
  rw [normalize, hsort, mapM_map_eq_ok encodePair_ofStrings]
  rfl

end Query
end Raw
end SignedHttp
