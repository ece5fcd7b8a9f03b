import SignedHttp.Proofs.Query

/-!
# The normal form of a query

`Query.normalize` decodes the pairs of a query, sorts them and encodes them again.  Encoding is a
way of writing that the reader of queries understands (`Query.legible_encode`), so the normal form
is itself a query, and it has the same pairs in their order (`Query.pairs_normalize`).

`Query.normalize_canonical` puts together what follows: the normal form neither loses nor invents a
pair, it is its own normal form, and two queries share it exactly when they have the same pairs,
each as many times.
-/

set_option autoImplicit false

namespace SignedHttp
namespace Query

/-- An encoded text has no plus sign, which would be read as a space. -/
theorem map_encode (s : String) :
    (Percent.encode s).toList.map (fun c => if c = '+' then ' ' else c) =
      (Percent.encode s).toList := by
  refine (List.map_congr_left fun c hc => if_neg ?_).trans (List.map_id _)
  rintro rfl
  exact Percent.not_mem_encode (by decide) (by decide) s hc

theorem legible_encode : Legible Percent.encode where
  read s := by
    rw [decodeComponent, map_encode]
    exact Percent.decode_encode s
  equals := Percent.not_mem_encode (by decide) (by decide)
  ampersand := Percent.not_mem_encode (by decide) (by decide)

theorem pairs_joinPairs (ps : List (String × String)) : pairs (joinPairs ps) = ps :=
  legible_encode.pairs_join ps

/-- **The normal form has the pairs of the query**, sorted. -/
theorem pairs_normalize (query : String) : pairs (normalize query) = sortPairs (pairs query) := by
  rw [normalize_eq, pairs_joinPairs]

/-- Sorted pairs stay as they are. -/
theorem sortPairs_sortPairs (ps : List (String × String)) :
    sortPairs (sortPairs ps) = sortPairs ps :=
  sortPairs_eq_of_perm (sortPairs_perm ps)

/-- **Two queries have one normal form exactly when they have the same pairs.** -/
theorem normalize_eq_iff {query query' : String} :
    normalize query = normalize query' ↔ (pairs query).Perm (pairs query') := by
  constructor
  · intro h
    have hsorted : sortPairs (pairs query) = sortPairs (pairs query') := by
      rw [← pairs_normalize, h, pairs_normalize]
    have hperm := sortPairs_perm (pairs query')
    rw [← hsorted] at hperm
    exact (sortPairs_perm (pairs query)).symm.trans hperm
  · exact normalize_eq_of_perm

/-- **The normal form is canonical.**  Read as a query it has the sorted pairs of the one that it
was made of: the same pairs, those with blank names or values and repeated ones included, with
their names in the order of code points and the values of a name in that order, too.  So it is its
own normal form, and it tells two queries apart exactly when their pairs differ in more than their
order. -/
theorem normalize_canonical (query query' : String) :
    (pairs (normalize query) = sortPairs (pairs query) ∧
      (pairs (normalize query)).Perm (pairs query) ∧
      (pairs (normalize query)).Pairwise fun p q => p.1 < q.1 ∨ p.1 = q.1 ∧ p.2 ≤ q.2) ∧
    normalize (normalize query) = normalize query ∧
    (normalize query = normalize query' ↔ (pairs query).Perm (pairs query')) := by
  refine ⟨⟨pairs_normalize query, ?_, ?_⟩, ?_, normalize_eq_iff⟩
  · rw [pairs_normalize]
    exact sortPairs_perm (pairs query)
  · rw [pairs_normalize]
    exact (pairwise_sortPairs (pairs query)).imp fun hle => pairLe_iff.1 hle
  · rw [normalize_eq (normalize query), pairs_normalize, sortPairs_sortPairs, normalize_eq]

/-- A blank name, a blank value, a repeated pair and an escaped plus sign. -/
example : normalize "b&=&a=1+%2B&b&&a=%C3%A9" = "=&a=1%20%2B&a=%C3%A9&b=&b=" := by
  have hpairs : pairs "b&=&a=1+%2B&b&&a=%C3%A9" =
      [("b", ""), ("", ""), ("a", "1 +"), ("b", ""), ("a", "é")] := by decide
  have hsorted : sortPairs [("b", ""), ("", ""), ("a", "1 +"), ("b", ""), ("a", "é")] =
      [("", ""), ("a", "1 +"), ("a", "é"), ("b", ""), ("b", "")] :=
    sortPairs_eq_of_pairwise (by decide) (by decide)
  rw [normalize_eq, hpairs, hsorted]
  decide

end Query
end SignedHttp
