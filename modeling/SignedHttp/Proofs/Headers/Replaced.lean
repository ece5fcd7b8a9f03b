import SignedHttp.Proofs.Headers.Multimap

/-!
# Header fields that are replaced

A request with other header fields is made from a copy of its header fields, on which one field after
the other is set.  Where several of these have one name, each of them takes away the one before.

* `Headers.performAll_set`: setting fields at one place of a row changes no other place.
* `Request.withHeaders_spec`: what a request with other header fields is, and that it takes nothing
  from the request it is made from.
-/

set_option autoImplicit false

namespace SignedHttp
namespace Headers

/-! ## Fields that are set at one place -/

theorem modify_append_singleton {α : Type} (front : List α) (x : α) (f : α → α) :
    (front ++ [x]).modify front.length f = front ++ [f x] := by
  induction front with
  | nil => rfl
  | cons y front ih => rw [List.cons_append, List.length_cons, List.modify_succ_cons, ih]; rfl

/-- The steps that set fields at a place. -/
def settings (place : Nat) (fields : List (String × String)) : List Command :=
  fields.map fun p => .change place (.set p.1 (.text p.2))

theorem performAll_set (front : List Headers) (h : Headers) (fields : List (String × String)) :
    performAll (front ++ [h]) (settings front.length fields) = front ++ [h.setAll fields] := by
  induction fields generalizing h with
  | nil => rfl
  | cons field fields ih =>
    obtain ⟨name, value⟩ := field
    rw [setAll_cons, ← ih]
    change performAll ((front ++ [h]).modify front.length (Change.set name (.text value)).apply) _ = _
    rw [modify_append_singleton]
    rfl

end Headers

namespace Request

open Headers

/-- **A request with other header fields.**  Each name that is set has the last value that is set
under it and no other, in whatever letter case it is written, and every other name has the values
that it had.  The fields of other names come first and keep their order; those that are set follow,
each where its last value is set.  Nothing else of the request is different.  The fields are set on
a copy, which leaves the header fields of the request as they are, and to set them once more makes
no difference. -/
theorem withHeaders_spec (r : Request) (extra : List (String × String)) :
    (∀ name, (r.withHeaders extra).headers.getAll name =
      match ((Headers.mk extra).getAll name).getLast? with
      | some value => [value]
      | none => r.headers.getAll name) ∧
    (r.withHeaders extra).headers.items =
      r.headers.items.filter (!isNamed extra ·.1) ++ lasting extra ∧
    r.withHeaders extra = { r with headers := (r.withHeaders extra).headers } ∧
    (∀ shelf : List Headers, performAll (shelf ++ [r.headers])
        (.copy shelf.length :: settings (shelf.length + 1) extra) =
      shelf ++ [r.headers, (r.withHeaders extra).headers]) ∧
    ((r.withHeaders extra).withHeaders extra).headers.items = (r.withHeaders extra).headers.items := by
  refine ⟨fun name => ?_, items_setAll r.headers extra, rfl, fun shelf => ?_, ?_⟩
  · rw [← lastSet_eq_getLast?]
    exact getAll_setAll r.headers extra name
  · have hcopy : perform (shelf ++ [r.headers]) (.copy shelf.length) =
        (shelf ++ [r.headers]) ++ [r.headers] := by
      rw [perform, List.getElem?_append_right (Nat.le_refl _), Nat.sub_self]
      rfl
    have hset := performAll_set (shelf ++ [r.headers]) r.headers extra
    rw [List.length_append, List.length_singleton, ← hcopy] at hset
    exact hset.trans (List.append_assoc ..)
  · rw [withHeaders_withHeaders]

end Request
end SignedHttp
