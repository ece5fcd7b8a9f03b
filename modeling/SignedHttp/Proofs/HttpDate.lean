import SignedHttp.HttpDate

/-!
# When a moment has a date

Dates are written for the years from 1 to 9999.  Years are counted from March in cycles of 400, so
the two bounds lie within the first year of one cycle and the last year of another.  There the
month decides (`HttpDate.one_le_year_iff`, `HttpDate.year_le_iff`).  In seconds the bounds are
`HttpDate.firstMoment` and `HttpDate.lastMoment`.
-/

set_option autoImplicit false

namespace SignedHttp
namespace HttpDate

/-! ## The years of a cycle -/

/-- The year of a cycle in which its `n`-th day lies. -/
def yearOfCycle (n : Int) : Int := (n - n / 1460 + n / 36524 - n / 146096) / 365

/-- The months since the last beginning of March. -/
def monthOfYear (n : Int) : Int :=
  (5 * (n - (365 * yearOfCycle n + yearOfCycle n / 4 - yearOfCycle n / 100)) + 2) / 153

/-- January and February belong to the next year. -/
def carry (month : Int) : Int :=
  if (if month < 10 then month + 3 else month - 9) ≤ 2 then 1 else 0

variable {days n cycle : Int}

theorem yearOfCycle_bounds (hn : 0 ≤ n) (hn' : n < 146097) :
    0 ≤ yearOfCycle n ∧ yearOfCycle n ≤ 399 := by
  rw [yearOfCycle]
  omega

theorem yearOfCycle_eq_first_iff (hn : 0 ≤ n) : yearOfCycle n = 0 ↔ n < 365 := by
  rw [yearOfCycle]
  omega

theorem yearOfCycle_eq_last_iff (hn' : n < 146097) : yearOfCycle n = 399 ↔ 145731 ≤ n := by
  rw [yearOfCycle]
  omega

theorem carry_bounds (month : Int) : 0 ≤ carry month ∧ carry month ≤ 1 := by
  rw [carry]
  split <;> omega

theorem carry_eq_one_iff {month : Int} (h : 0 ≤ month) (h' : month ≤ 11) :
    carry month = 1 ↔ 10 ≤ month := by
  rw [carry]
  split <;> split <;> omega

/-- In the first year of a cycle the 306 days until the end of December do not carry. -/
theorem carry_first (hn : 0 ≤ n) (hn' : n < 365) : carry (monthOfYear n) = 1 ↔ 306 ≤ n := by
  rw [carry_eq_one_iff]
  all_goals rw [monthOfYear, (yearOfCycle_eq_first_iff hn).2 hn']
  all_goals omega

/-- The same in the last year, which begins with day 145731. -/
theorem carry_last (hn : 145731 ≤ n) (hn' : n < 146097) :
    carry (monthOfYear n) = 1 ↔ 146037 ≤ n := by
  rw [carry_eq_one_iff]
  all_goals rw [monthOfYear, (yearOfCycle_eq_last_iff hn').2 hn]
  all_goals omega

/-! ## The years that can be written -/

theorem year_civil (days : Int) :
    (civil days).1 = yearOfCycle ((days + 719468) % 146097) + (days + 719468) / 146097 * 400 +
      carry (monthOfYear ((days + 719468) % 146097)) :=
  rfl

theorem one_le_year_iff : 1 ≤ (civil days).1 ↔ -719162 ≤ days := by
  have hn : 0 ≤ (days + 719468) % 146097 := by omega
  have hn' : (days + 719468) % 146097 < 146097 := by omega
  have hyear := yearOfCycle_bounds hn hn'
  have hcarry := carry_bounds (monthOfYear ((days + 719468) % 146097))
  have hfirst := yearOfCycle_eq_first_iff hn
  have hmonth := carry_first hn
  rw [year_civil]
  omega

theorem year_le_iff : (civil days).1 ≤ 9999 ↔ days ≤ 2932896 := by
  have hn : 0 ≤ (days + 719468) % 146097 := by omega
  have hn' : (days + 719468) % 146097 < 146097 := by omega
  have hyear := yearOfCycle_bounds hn hn'
  have hcarry := carry_bounds (monthOfYear ((days + 719468) % 146097))
  have hlast := yearOfCycle_eq_last_iff hn'
  have hmonth := fun h => carry_last h hn'
  rw [year_civil]
  omega

/-! ## The moments that have a date -/

/-- The beginning of the year 1. -/
def firstMoment : Int := -62135596800

/-- The last second of the year 9999. -/
def lastMoment : Int := 253402300799

/-- **Exactly the moments of these years have a date.** -/
theorem exists_format_eq_ok_iff {t : Int} :
    (∃ date, format t = .ok date) ↔ firstMoment ≤ t ∧ t ≤ lastMoment := by
  have hfirst : 1 ≤ (civil (t / 86400)).1 ↔ firstMoment ≤ t := by
    rw [one_le_year_iff, firstMoment]
    omega
  have hlast : (civil (t / 86400)).1 ≤ 9999 ↔ t ≤ lastMoment := by
    rw [year_le_iff, lastMoment]
    omega
  rw [format]
  split
  · next hclock =>
    simp only [Bool.or_eq_true, decide_eq_true_eq] at hclock
    rw [clockBound] at hclock
    simp only [reduceCtorEq, exists_false, false_iff, firstMoment, lastMoment]
    omega
  · dsimp only
    split
    · next hcalendar =>
      simp only [Bool.or_eq_true, decide_eq_true_eq] at hcalendar
      rw [yearBound] at hcalendar
      simp only [reduceCtorEq, exists_false, false_iff, ← hfirst, ← hlast]
      omega
    · split
      · next hyear =>
        simp only [Bool.or_eq_true, decide_eq_true_eq] at hyear
        simp only [reduceCtorEq, exists_false, false_iff, ← hfirst, ← hlast]
        omega
      · next hyear =>
        simp only [Bool.or_eq_true, decide_eq_true_eq] at hyear
        simp only [Except.ok.injEq, exists_eq', true_iff, ← hfirst, ← hlast]
        omega

end HttpDate
end SignedHttp
