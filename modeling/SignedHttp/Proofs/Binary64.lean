import Mathlib.Algebra.Group.Nat.Defs
import SignedHttp.Number.Binary64

/-!
# Integers beyond the range

`Binary64.ofInt?` gives no number for an integer that would be rounded to infinity.
`Binary64.ofInt?_eq_none_iff` says which integers these are: those from the middle between the
greatest finite number and the power of two above it on, because a tie there goes to the even
mantissa, which is that of the power.
-/

set_option autoImplicit false

namespace SignedHttp
namespace Binary64

/-! ## Rounding to an integer -/

theorem nearestNat_bounds (num den : Nat) :
    num / den ≤ nearestNat num den ∧ nearestNat num den ≤ num / den + 1 := by
  rw [nearestNat]
  split
  · omega
  · omega

/-- From an odd quotient, the middle is rounded up. -/
theorem nearestNat_eq_succ_iff {num den : Nat} (hodd : num / den % 2 = 1) :
    nearestNat num den = num / den + 1 ↔ den ≤ 2 * (num % den) := by
  rw [nearestNat]
  split
  · next hdown =>
    simp only [hodd, Nat.one_ne_zero, beq_iff_eq, Bool.or_eq_true, decide_eq_true_eq,
      Bool.and_eq_true, and_false, or_false] at hdown
    omega
  · next hup =>
    simp only [Bool.or_eq_true, decide_eq_true_eq, not_or] at hup
    omega

/-- The quotients that are rounded to the bound of all mantissas. -/
theorem nearestNat_eq_bound_iff {num den : Nat} (hden : 0 < den) (hlt : num / den < mantissaBound) :
    nearestNat num den = mantissaBound ↔ (2 ^ 54 - 1) * den ≤ 2 * num := by
  have hdivision := Nat.div_add_mod num den
  have hmod := Nat.mod_lt num hden
  by_cases hlast : num / den + 1 = mantissaBound
  · have hquotient : num / den = 2 ^ 53 - 1 := by
      rw [mantissaBound] at hlast
      omega
    rw [← hlast, nearestNat_eq_succ_iff (by omega)]
    rw [hquotient] at hdivision
    omega
  · have hbounds := nearestNat_bounds num den
    have hquotient : num / den ≤ 2 ^ 53 - 2 := by
      rw [mantissaBound] at hlt hlast
      omega
    have hproduct : den * (num / den) ≤ den * (2 ^ 53 - 2) := Nat.mul_le_mul_left den hquotient
    refine ⟨fun h => absurd h (by omega), fun h => absurd h ?_⟩
    omega

/-! ## Rounding to a number -/

def IsInfinite (x : Binary64) : Prop := ∃ negative, x = infinite negative

/-- A mantissa and an exponent, unless the exponent is too great. -/
def capped (negative : Bool) (m : Nat) (e : Int) : Binary64 :=
  if greatestExponent < e then infinite negative else finite negative m e

theorem isInfinite_capped_iff {negative : Bool} {m : Nat} {e : Int} :
    IsInfinite (capped negative m e) ↔ greatestExponent < e := by
  rw [capped, IsInfinite]
  split
  · next h => simp [h]
  · next h => simp [h]

/-- The exponent that is tried first. -/
def lowExponent (num den : Nat) : Int := (num.log2 : Int) - den.log2 - 53

/-- The exponent of a quotient before its mantissa is rounded. -/
def exponentOf (num den : Nat) : Int :=
  let low := lowExponent num den
  max (if (scaled num den low).1 / (scaled num den low).2 < mantissaBound then low else low + 1)
    leastExponent

def mantissaOf (num den : Nat) : Nat :=
  nearestNat (scaled num den (exponentOf num den)).1 (scaled num den (exponentOf num den)).2

/-- The mantissa and the exponent after rounding, which may reach the bound. -/
def rounded (num den : Nat) : Nat × Int :=
  if mantissaOf num den = mantissaBound then (mantissaOf num den / 2, exponentOf num den + 1)
  else (mantissaOf num den, exponentOf num den)

theorem ofRatio_eq {negative : Bool} {num den : Nat} (hnum : num ≠ 0) :
    ofRatio negative num den = capped negative (rounded num den).1 (rounded num den).2 := by
  rw [ofRatio, if_neg hnum]
  rfl

theorem isInfinite_ofRatio_iff {negative : Bool} {num den : Nat} (hnum : num ≠ 0) :
    IsInfinite (ofRatio negative num den) ↔
      greatestExponent < exponentOf num den ∨
        greatestExponent < exponentOf num den + 1 ∧ mantissaOf num den = mantissaBound := by
  rw [ofRatio_eq hnum, isInfinite_capped_iff, rounded]
  split
  · omega
  · omega

/-! ## Integers -/

theorem scaled_natCast (n j : Nat) : scaled n 1 (j : Int) = (n, 2 ^ j) := by
  rw [scaled, if_pos (Int.natCast_nonneg j), Int.toNat_natCast, Nat.shiftLeft_eq, one_mul]

theorem lowExponent_one (n : Nat) : lowExponent n 1 = (n.log2 : Int) - 53 := by
  rw [lowExponent, show Nat.log2 1 = 0 by decide]
  omega

theorem exponentOf_one_le {n : Nat} (hlog : n.log2 < 53) : exponentOf n 1 ≤ 0 := by
  have hlow := lowExponent_one n
  rw [exponentOf, leastExponent]
  split
  · omega
  · omega

section Large

variable {n j : Nat} (hn : n ≠ 0) (hlog : n.log2 = 53 + j)

include hn hlog

theorem exponentOf_one : exponentOf n 1 = j + 1 := by
  have hlow : lowExponent n 1 = j := by
    rw [lowExponent_one, hlog]
    omega
  have hquotient : ¬n / 2 ^ j < mantissaBound := by
    have hge := ((Nat.log2_eq_iff hn).1 hlog).1
    rw [pow_add] at hge
    rw [Nat.not_lt, Nat.le_div_iff_mul_le (Nat.two_pow_pos j)]
    exact hge
  rw [exponentOf, hlow, leastExponent, scaled_natCast, if_neg hquotient]
  omega

theorem mantissaOf_one : mantissaOf n 1 = nearestNat n (2 ^ (j + 1)) := by
  have hexponent : exponentOf n 1 = (j + 1 : Nat) := exponentOf_one hn hlog
  rw [mantissaOf, hexponent, scaled_natCast]

theorem mantissaOf_one_eq_bound_iff :
    mantissaOf n 1 = mantissaBound ↔ (2 ^ 54 - 1) * 2 ^ (j + 1) ≤ 2 * n := by
  have hquotient : n / 2 ^ (j + 1) < mantissaBound := by
    have hlt := ((Nat.log2_eq_iff hn).1 hlog).2
    rw [add_assoc, pow_add] at hlt
    exact Nat.div_lt_of_lt_mul (by rwa [mul_comm])
  rw [mantissaOf_one hn hlog, nearestNat_eq_bound_iff (Nat.two_pow_pos (j + 1)) hquotient]

end Large

/-- The least magnitude that is rounded to infinity. -/
def overflow : Nat := 2 ^ 1024 - 2 ^ 970

theorem overflow_eq : overflow = (2 ^ 54 - 1) * 2 ^ 970 := by
  rw [overflow, Nat.sub_mul, ← pow_add, one_mul]

theorem isInfinite_ofRatio_one_iff (negative : Bool) {n : Nat} :
    IsInfinite (ofRatio negative n 1) ↔ overflow ≤ n := by
  have hpos : 0 < overflow := by
    rw [overflow_eq]
    have hpow (k : Nat) : 0 < 2 ^ k := Nat.two_pow_pos k
    exact Nat.mul_pos (by omega) (hpow 970)
  have hoverflow := overflow_eq
  by_cases hn : n = 0
  · have hzero : ofRatio negative n 1 = finite negative 0 leastExponent := if_pos hn
    rw [hzero, IsInfinite]
    refine ⟨fun h => absurd h (by simp), fun h => ?_⟩
    omega
  rw [isInfinite_ofRatio_iff hn, greatestExponent]
  rcases Nat.lt_or_ge n.log2 53 with hsmall | hlarge
  · have hexponent := exponentOf_one_le hsmall
    have hlt := (Nat.log2_lt hn).1 hsmall
    omega
  obtain ⟨j, hlog⟩ := Nat.exists_eq_add_of_le hlarge
  have hpowers := (Nat.log2_eq_iff hn).1 hlog
  have hpow {k l : Nat} (h : k ≤ l) : 2 ^ k ≤ 2 ^ l := Nat.pow_le_pow_right (by decide) h
  rw [mantissaOf_one_eq_bound_iff hn hlog, exponentOf_one hn hlog]
  rcases Nat.lt_trichotomy j 970 with hj | rfl | hj
  · have hle := hpow (show 53 + j + 1 ≤ 1023 by omega)
    omega
  · omega
  · have hle := hpow (show 1024 ≤ 53 + j by omega)
    omega

/-- **No number is near an integer from this magnitude on.** -/
theorem ofInt?_eq_none_iff {i : Int} : ofInt? i = none ↔ overflow ≤ i.natAbs := by
  rw [← isInfinite_ofRatio_one_iff (decide (i < 0)), ofInt?]
  split
  · next negative h => exact ⟨fun _ => ⟨negative, h⟩, fun _ => rfl⟩
  · next h =>
    constructor
    · simp
    · rintro ⟨negative, hinfinite⟩
      exact (h negative hinfinite).elim

end Binary64
end SignedHttp
