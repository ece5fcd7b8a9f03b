import Mathlib.Data.List.Nodup
import SignedHttp.Registry

/-!
# Looking schemes up

A registry has at most one scheme of each kind, so looking for the first scheme with a property
finds the only one, wherever it stands.

* `Registry.find?_eq_some_iff`: the scheme with an id.
* `Registry.schemeOf?_eq_some_iff`: the scheme to which an Authorization value belongs.
* `Registry.find?_eq_of_perm`, `Registry.schemeOf?_eq_of_perm`: both in any order of registration.
-/

set_option autoImplicit false

namespace SignedHttp
namespace Registry

variable {reg : Registry} {s t : Scheme}

theorem eq_of_id_eq (hs : s ∈ reg.schemes) (ht : t ∈ reg.schemes) (h : s.id = t.id) : s = t :=
  List.inj_on_of_nodup_map reg.distinct hs ht h

/-- Where no two elements have a property, the first one that has it is the only one. -/
theorem find?_eq_some_iff_mem {α : Type} {p : α → Bool} {l : List α}
    (honly : ∀ x ∈ l, ∀ y ∈ l, p x = true → p y = true → x = y) {x : α} :
    l.find? p = some x ↔ x ∈ l ∧ p x = true := by
  constructor
  · intro h
    exact ⟨List.mem_of_find?_eq_some h, List.find?_some h⟩
  · rintro ⟨hmem, hx⟩
    obtain ⟨y, hy⟩ := Option.isSome_iff_exists.1 (List.find?_isSome.2 ⟨x, hmem, hx⟩)
    rw [hy, honly x hmem y (List.mem_of_find?_eq_some hy) hx (List.find?_some hy)]

theorem find?_eq_some_iff {version : String} :
    reg.find? version = some s ↔ s ∈ reg.schemes ∧ s.id = version := by
  rw [find?, find?_eq_some_iff_mem, beq_iff_eq]
  intro x hx y hy hxid hyid
  exact eq_of_id_eq hx hy ((beq_iff_eq.1 hxid).trans (beq_iff_eq.1 hyid).symm)

theorem find?_eq_none_iff {version : String} :
    reg.find? version = none ↔ ∀ s ∈ reg.schemes, s.id ≠ version := by
  simp [find?]

/-- Tokens that differ in letter case at most belong to one kind of scheme. -/
theorem id_eq_of_lower_token_eq (h : Text.lower s.token = Text.lower t.token) : s.id = t.id := by
  have hne : Text.lower LegacyScheme.token ≠ Text.lower CurrentScheme.token := by decide
  cases s with
  | legacy _ =>
    cases t with
    | legacy _ => rfl
    | current _ => exact absurd h hne
  | current _ =>
    cases t with
    | legacy _ => exact absurd h.symm hne
    | current _ => rfl

theorem id_eq_of_identifies {value : String} (hs : s.identifies value = true)
    (ht : t.identifies value = true) : s.id = t.id := by
  rw [Scheme.identifies, Token.begins, Bool.and_eq_true, beq_iff_eq] at hs ht
  exact id_eq_of_lower_token_eq (hs.2.symm.trans ht.2)

/-- **A value belongs to one scheme at most.** -/
theorem schemeOf?_eq_some_iff {value : String} :
    reg.schemeOf? (some value) = some s ↔ s ∈ reg.schemes ∧ s.identifies value = true := by
  rw [schemeOf?, find?_eq_some_iff_mem]
  · rfl
  · intro x hx y hy hxvalue hyvalue
    exact eq_of_id_eq hx hy (id_eq_of_identifies hxvalue hyvalue)

theorem schemeOf?_none : reg.schemeOf? none = none := List.find?_eq_none.2 (by simp)

theorem mem_pair_iff {legacy : LegacyScheme} {current : CurrentScheme} :
    s ∈ (pair legacy current).schemes ↔ s = .legacy legacy ∨ s = .current current := by
  rw [pair, List.mem_cons, List.mem_singleton]

/-! The order in which schemes are registered makes no difference to what is found. -/

variable {reg' : Registry}

theorem find?_eq_of_perm (h : reg.schemes.Perm reg'.schemes) (version : String) :
    reg.find? version = reg'.find? version := by
  refine Option.ext fun s => ?_
  rw [find?_eq_some_iff, find?_eq_some_iff, h.mem_iff]

theorem schemeOf?_eq_of_perm (h : reg.schemes.Perm reg'.schemes) (value : Option String) :
    reg.schemeOf? value = reg'.schemeOf? value := by
  cases value with
  | none => rw [schemeOf?_none, schemeOf?_none]
  | some text =>
    refine Option.ext fun s => ?_
    rw [schemeOf?_eq_some_iff, schemeOf?_eq_some_iff, h.mem_iff]

/-- What the id of the second scheme finds is the second scheme. -/
theorem exists_of_find?_current (h : reg.find? CurrentScheme.id = some s) :
    ∃ scheme, s = .current scheme ∧ .current scheme ∈ reg.schemes := by
  obtain ⟨hmem, hid⟩ := find?_eq_some_iff.1 h
  have hne : LegacyScheme.id ≠ CurrentScheme.id := by decide
  cases s with
  | legacy _ => exact absurd hid hne
  | current scheme => exact ⟨scheme, rfl, hmem⟩

end Registry
end SignedHttp
