import SignedHttp.Proofs.Query.Normal

/-!
# A query as a form writes it

Forms and RFC 3986 write the same pairs in two ways, which differ in the space only: the one writes
a plus sign for it, the other an escape.  So when the pairs of a query are written as a form writes
them, the query comes out as it was only if it had no spaces to write, and only if its escapes are
those that RFC 3986 prefers.

* `Query.Written`: queries in the characters that percent-encoding writes.
* `Query.Restorable`: what such a query must satisfy.
* `Query.encodePairs_pairs_eq_iff`: then it is written again as it was, and only then.
-/

set_option autoImplicit false

namespace SignedHttp
namespace Query

variable {query : String} {ps : List (String × String)}

/-- A query with nothing in it but unreserved characters, percent signs and the separators of a
query.  The letter case of its escapes is left open, as RFC 3986 leaves it. -/
def Written (query : String) : Prop :=
  ∀ c ∈ query.toList, Percent.IsWritten c ∨ c = '=' ∨ c = '&'

theorem written_joinPairs (ps : List (String × String)) : Written (joinPairs ps) := by
  intro c hc
  by_contra hother
  rw [not_or, not_or, Percent.IsWritten, not_or, Bool.not_eq_true] at hother
  obtain ⟨⟨hreserved, hpercent⟩, hequals, hand⟩ := hother
  exact not_mem_joinPairs hreserved hpercent hequals hand ps hc

theorem Written.plus_not_mem (h : Written query) : '+' ∉ query.toList := by
  intro hplus
  rcases h '+' hplus with (hplus | hplus) | hplus | hplus
  · exact absurd hplus (by decide)
  · exact absurd hplus (by decide)
  · exact absurd hplus (by decide)
  · exact absurd hplus (by decide)

/-- Neither a name nor a value has a space. -/
def Unspaced (ps : List (String × String)) : Prop :=
  ∀ p ∈ ps, ' ' ∉ p.1.toList ∧ ' ' ∉ p.2.toList

instance : Decidable (Unspaced ps) :=
  inferInstanceAs (Decidable (∀ p ∈ ps, ' ' ∉ p.1.toList ∧ ' ' ∉ p.2.toList))

/-- Without spaces the two ways of writing are one. -/
theorem encodePairs_eq_joinPairs (h : Unspaced ps) : encodePairs ps = joinPairs ps := by
  refine congrArg _ (List.map_congr_left fun p hp => ?_)
  rw [encodePair, Percent.encodePlus_eq_encode (h p hp).1, Percent.encodePlus_eq_encode (h p hp).2]

/-- A form brings in a plus sign with each space. -/
theorem unspaced_of_plus_not_mem (h : '+' ∉ (encodePairs ps).toList) : Unspaced ps := by
  intro p hp
  have hpart : (writePair Percent.encodePlus p).toList <:+: (encodePairs ps).toList := by
    rw [encodePairs, String.toList_intercalate]
    exact Text.isInfix_intercalate (List.mem_map_of_mem (List.mem_map_of_mem hp))
  have hplus : '+' ∉ (writePair Percent.encodePlus p).toList := fun hmem => h (hpart.mem hmem)
  rw [toList_writePair, List.mem_append, List.mem_cons, not_or, not_or,
    Percent.plus_mem_encodePlus_iff, Percent.plus_mem_encodePlus_iff] at hplus
  exact ⟨hplus.1, hplus.2.2⟩

/-- A query that forms and RFC 3986 write alike. -/
structure Restorable (query : String) : Prop where
  /-- All that need not be escaped is written as it is, and escapes have upper-case digits. -/
  canonical : joinPairs (pairs query) = query
  unspaced : Unspaced (pairs query)

/-- **A query is written again as it was if it is restorable**, and only then. -/
theorem encodePairs_pairs_eq_iff (h : Written query) :
    encodePairs (pairs query) = query ↔ Restorable query := by
  constructor
  · intro hquery
    have hunspaced : Unspaced (pairs query) :=
      unspaced_of_plus_not_mem (hquery.symm ▸ h.plus_not_mem)
    exact ⟨(encodePairs_eq_joinPairs hunspaced).symm.trans hquery, hunspaced⟩
  · intro hrestorable
    exact (encodePairs_eq_joinPairs hrestorable.unspaced).trans hrestorable.canonical

/-- In a query that is written as RFC 3986 prefers, spaces alone stand in the way. -/
theorem restorable_joinPairs_iff : Restorable (joinPairs ps) ↔ Unspaced ps := by
  constructor
  · intro h
    exact pairs_joinPairs ps ▸ h.unspaced
  · intro h
    exact ⟨by rw [pairs_joinPairs], by rwa [pairs_joinPairs]⟩

end Query
end SignedHttp
