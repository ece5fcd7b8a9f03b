/-!
# Cutting a text at a character

A text is cut as the list of its characters, whatever these are.

* `cutFirst`: the two sides of the first occurrence of a separator.
* `cutLast`: the two sides of the last one.
* `pieces`: the stretches between all separators of a class.
-/

set_option autoImplicit false

namespace SignedHttp
namespace Text

variable {α : Type}

/-! ## At one character -/

section

variable [DecidableEq α]

/-- The text before and after the first `sep`, if there is one. -/
def cutFirst (sep : α) : List α → Option (List α × List α)
  | [] => none
  | c :: rest =>
    if c = sep then some ([], rest)
    else (cutFirst sep rest).map fun (front, back) => (c :: front, back)

theorem eq_of_cutFirst {sep : α} {cs front back : List α}
    (h : cutFirst sep cs = some (front, back)) : cs = front ++ sep :: back ∧ sep ∉ front := by
  induction cs generalizing front back with
  | nil => simp [cutFirst] at h
  | cons c rest ih =>
    by_cases hc : c = sep
    · simp only [cutFirst, hc, if_true, Option.some.injEq, Prod.mk.injEq] at h
      simp [← h.1, ← h.2, hc]
    · simp only [cutFirst, hc, if_false, Option.map_eq_some_iff] at h
      obtain ⟨⟨f, b⟩, hcut, hp⟩ := h
      obtain ⟨rfl, hf⟩ := ih hcut
      simp only [Prod.mk.injEq] at hp
      simp [← hp.1, ← hp.2, hf, Ne.symm hc]

theorem cutFirst_eq_none_iff {sep : α} {cs : List α} :
    cutFirst sep cs = none ↔ sep ∉ cs := by
  induction cs with
  | nil => simp [cutFirst]
  | cons c rest ih =>
    by_cases hc : c = sep
    · simp [cutFirst, hc]
    · simp [cutFirst, hc, ih, Ne.symm hc]

theorem cutFirst_append {sep : α} {front : List α} (h : sep ∉ front) (back : List α) :
    cutFirst sep (front ++ sep :: back) = some (front, back) := by
  induction front with
  | nil => simp [cutFirst]
  | cons c front ih =>
    rw [List.mem_cons, not_or] at h
    rw [List.cons_append, cutFirst, if_neg (Ne.symm h.1), ih h.2]
    rfl

/-- The text before and after the last `sep`, if there is one. -/
def cutLast (sep : α) : List α → Option (List α × List α)
  | [] => none
  | c :: rest =>
    match cutLast sep rest with
    | some (front, back) => some (c :: front, back)
    | none => if c = sep then some ([], rest) else none

theorem cutLast_eq_none_iff {sep : α} {cs : List α} : cutLast sep cs = none ↔ sep ∉ cs := by
  induction cs with
  | nil => simp [cutLast]
  | cons c rest ih =>
    cases hcut : cutLast sep rest with
    | none =>
      by_cases hc : c = sep
      · simp [cutLast, hcut, hc]
      · simp [cutLast, hcut, hc, ih.1 hcut, Ne.symm hc]
    | some p =>
      have hmem : sep ∈ rest := by
        by_cases hmem : sep ∈ rest
        · exact hmem
        · simp [ih.2 hmem] at hcut
      simp [cutLast, hcut, hmem]

theorem eq_of_cutLast {sep : α} {cs front back : List α}
    (h : cutLast sep cs = some (front, back)) : cs = front ++ sep :: back ∧ sep ∉ back := by
  induction cs generalizing front back with
  | nil => simp [cutLast] at h
  | cons c rest ih =>
    cases hcut : cutLast sep rest with
    | none =>
      rw [cutLast, hcut] at h
      by_cases hc : c = sep
      · simp only [hc, if_true, Option.some.injEq, Prod.mk.injEq] at h
        simp [← h.1, ← h.2, hc, cutLast_eq_none_iff.1 hcut]
      · simp [hc] at h
    | some p =>
      obtain ⟨f, b⟩ := p
      rw [cutLast, hcut] at h
      simp only [Option.some.injEq, Prod.mk.injEq] at h
      obtain ⟨rfl, rfl⟩ := h
      obtain ⟨rfl, hb⟩ := ih hcut
      exact ⟨rfl, hb⟩

theorem cutLast_append {sep : α} {back : List α} (h : sep ∉ back) (front : List α) :
    cutLast sep (front ++ sep :: back) = some (front, back) := by
  induction front with
  | nil => rw [List.nil_append, cutLast, cutLast_eq_none_iff.2 h, if_pos rfl]
  | cons c front ih => rw [List.cons_append, cutLast, ih]

end

/-! ## At every character of a class -/

/-- The stretches between the characters of a class; `n` such characters give `n + 1` stretches. -/
def pieces (isSep : α → Bool) : List α → List (List α)
  | [] => [[]]
  | c :: rest =>
    if isSep c then [] :: pieces isSep rest
    else
      match pieces isSep rest with
      | [] => [[c]]
      | piece :: others => (c :: piece) :: others

theorem pieces_ne_nil (isSep : α → Bool) (cs : List α) : pieces isSep cs ≠ [] := by
  cases cs with
  | nil => simp [pieces]
  | cons c rest =>
    rw [pieces]
    split
    · simp
    · split <;> simp

/-- No stretch holds a separator. -/
theorem not_isSep_of_mem_pieces {isSep : α → Bool} {cs piece : List α}
    (h : piece ∈ pieces isSep cs) : ∀ c ∈ piece, isSep c = false := by
  induction cs generalizing piece with
  | nil => simp_all [pieces]
  | cons c rest ih =>
    rw [pieces] at h
    split at h
    · next hc =>
      rcases List.mem_cons.1 h with rfl | h
      · simp
      · exact ih h
    · next hc =>
      split at h
      · next hp => exact absurd hp (pieces_ne_nil isSep rest)
      · next first others hp =>
        rcases List.mem_cons.1 h with rfl | h
        · intro d hd
          rcases List.mem_cons.1 hd with rfl | hd
          · simpa using hc
          · exact ih (by rw [hp]; exact List.mem_cons_self) d hd
        · exact ih (by rw [hp]; exact List.mem_cons_of_mem _ h)

end Text
end SignedHttp
