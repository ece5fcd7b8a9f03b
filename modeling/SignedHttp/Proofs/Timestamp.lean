import Mathlib.Algebra.Group.Nat.Defs
import SignedHttp.Proofs.Checks
import SignedHttp.Proofs.Text
import SignedHttp.Timestamp

/-!
# The time window

`Timestamp.IsNumeral` is the grammar of what is read as a number
(`Timestamp.digits?_eq_some_iff`).

What `Timestamp.check` says of a text under a whole clock.  It gives the number of seconds when the
text is a numeral that is short enough and lies within the window
(`Timestamp.check_eq_ok_iff`), it rejects what is no numeral or lies outside
(`Timestamp.check_eq_rejected_iff`), and it comes to a fault of the numbers when it can do neither
(`Timestamp.check_eq_fault_iff`).  A timestamp that was written as a number is judged by that number
(`Timestamp.check_toString`).
-/

set_option autoImplicit false

namespace SignedHttp
namespace Timestamp

variable {now tolerance n : Int} {text : String} {digits : List Char} {fault : NumericFault}

/-! ## Numerals -/

/-- A text that consists of digits, at least one, and of blanks around them. -/
structure IsNumeral (text : String) (digits : List Char) : Prop where
  blanks : ∃ leading trailing, text.toList = leading ++ (digits ++ trailing) ∧
    (∀ c ∈ leading, Text.isBlank c = true) ∧ ∀ c ∈ trailing, Text.isBlank c = true
  ne : digits ≠ []
  digit : ∀ c ∈ digits, c.isDigit = true

theorem digits?_eq_some_iff : digits? text = some digits ↔ IsNumeral text digits := by
  rw [digits?]
  constructor
  · intro h
    split at h
    · next hdigits =>
      obtain rfl := Option.some.inj h
      rw [Bool.and_eq_true, List.all_eq_true] at hdigits
      exact ⟨Text.exists_trim text.toList, by simpa using hdigits.1, hdigits.2⟩
    · exact absurd h (by simp)
  · rintro ⟨⟨leading, trailing, htext, hleading, htrailing⟩, hne, hdigit⟩
    have hblank : ∀ c ∈ digits, Text.isBlank c = false := fun c hc =>
      Text.isBlank_of_isAlphanum (Bool.or_eq_true_iff.2 (.inr (hdigit c hc)))
    have htrim : Text.trim text.toList = digits := by
      rw [htext, Text.trim_surrounded hleading hblank hne htrailing]
    have hall : digits.all Char.isDigit = true := List.all_eq_true.2 hdigit
    simp [htrim, hne, hall]

theorem digits?_eq_none_iff : digits? text = none ↔ ¬∃ digits, IsNumeral text digits := by
  simp only [← digits?_eq_some_iff, Option.eq_none_iff_forall_ne_some, not_exists, ne_eq]

theorem IsNumeral.isBlank_or_isDigit (h : IsNumeral text digits) {c : Char}
    (hc : c ∈ text.toList) : Text.isBlank c = true ∨ c.isDigit = true := by
  obtain ⟨leading, trailing, htext, hleading, htrailing⟩ := h.blanks
  rw [htext, List.mem_append, List.mem_append] at hc
  rcases hc with hc | hc | hc
  · exact .inl (hleading c hc)
  · exact .inr (h.digit c hc)
  · exact .inl (htrailing c hc)

/-- Digits alone are a numeral. -/
theorem isNumeral_ofList (hne : digits ≠ []) (hdigit : ∀ c ∈ digits, c.isDigit = true) :
    IsNumeral (String.ofList digits) digits where
  blanks := ⟨[], [], by simp, by simp, by simp⟩
  ne := hne
  digit := hdigit

/-! ## Reading and judging -/

/-- The number that digits denote. -/
def moment (digits : List Char) : Int := (Nat.ofDigitChars 10 digits 0 : Nat)

theorem readText_eq_ok_iff : readText text = .ok n ↔
    ∃ digits, digits? text = some digits ∧ digits.length ≤ digitLimit ∧ n = moment digits := by
  rw [readText]
  cases digits? text with
  | none => simp
  | some digits =>
    by_cases hlength : digits.length ≤ digitLimit
    · simp [Nat.not_lt.2 hlength, hlength, moment, eq_comm]
    · simp [Nat.not_le.1 hlength, hlength]

theorem readText_eq_rejected_iff {error : AuthError} : readText text = .error (.rejected error) ↔
    digits? text = none ∧ error = .invalidTimestamp (.text text) := by
  rw [readText]
  cases digits? text with
  | none => simp [eq_comm]
  | some digits =>
    by_cases hlength : digitLimit < digits.length
    · simp [hlength]
    · simp [hlength]

theorem readText_eq_fault_iff : readText text = .error (.fault fault) ↔
    ∃ digits, digits? text = some digits ∧ digitLimit < digits.length ∧
      fault = .tooManyDigits (some digits.length) := by
  rw [readText]
  cases digits? text with
  | none => simp
  | some digits =>
    by_cases hlength : digitLimit < digits.length
    · simp [hlength, eq_comm]
    · simp [hlength]

/-- How far two moments are apart. -/
def distance (now seconds : Int) : Int := (now - seconds).natAbs

theorem checkWindow_eq_ok_iff {seconds : Int} :
    checkWindow (.whole now) tolerance seconds = .ok () ↔ distance now seconds ≤ tolerance := by
  rw [checkWindow, ← distance]
  by_cases hwithin : distance now seconds ≤ tolerance
  · rw [if_pos hwithin]
    exact ⟨fun _ => hwithin, fun _ => rfl⟩
  · rw [if_neg hwithin]
    refine ⟨fun h => absurd h ?_, fun h => absurd h hwithin⟩
    split
    · simp
    · simp

/-- The side of the window on which a moment outside it lies. -/
def side (now seconds : Int) : Direction := if seconds < now then .past else .future

/-- A rejection names the side, the distance, rounded, and the tolerance. -/
theorem checkWindow_eq_rejected_iff {seconds : Int} {error : AuthError} :
    checkWindow (.whole now) tolerance seconds = .error (.rejected error) ↔
      tolerance < distance now seconds ∧ isWritable tolerance = true ∧
        ∃ rounded, Binary64.ofInt? (distance now seconds) = some rounded ∧
          error = .outsideWindow (side now seconds) rounded tolerance := by
  rw [checkWindow, ← distance, ← side]
  by_cases hwithin : distance now seconds ≤ tolerance
  · rw [if_pos hwithin]
    simp [Int.not_lt.2 hwithin]
  · have hbeyond := Int.not_le.1 hwithin
    rw [if_neg hwithin]
    cases Binary64.ofInt? (distance now seconds) with
    | none => simp
    | some rounded =>
      cases hwritable : isWritable tolerance with
      | false => simp [turnAway, hwritable]
      | true => simp [turnAway, hwritable, hbeyond, eq_comm (a := error)]

/-- Outside the window, a message names the distance, rounded, and the tolerance. -/
theorem checkWindow_eq_fault_iff {seconds : Int} :
    checkWindow (.whole now) tolerance seconds = .error (.fault fault) ↔
      tolerance < distance now seconds ∧
        (Binary64.ofInt? (distance now seconds) = none ∧ fault = .beyondFloat ∨
          Binary64.ofInt? (distance now seconds) ≠ none ∧ isWritable tolerance = false ∧
            fault = .tooManyDigits none) := by
  rw [checkWindow, ← distance]
  by_cases hwithin : distance now seconds ≤ tolerance
  · rw [if_pos hwithin]
    simp [Int.not_lt.2 hwithin]
  · have hbeyond := Int.not_le.1 hwithin
    rw [if_neg hwithin]
    cases Binary64.ofInt? (distance now seconds) with
    | none => simp [hbeyond, eq_comm (a := fault)]
    | some rounded =>
      cases hwritable : isWritable tolerance with
      | false => simp [turnAway, hwritable, hbeyond, eq_comm (a := fault)]
      | true => simp [turnAway, hwritable]

/-- **A text is accepted when it is a numeral of a moment within the window.** -/
theorem check_eq_ok_iff : check (.whole now) tolerance (.text text) = .ok n ↔
    ∃ digits, digits? text = some digits ∧ digits.length ≤ digitLimit ∧ n = moment digits ∧
      distance now n ≤ tolerance := by
  rw [check, bind_eq_ok_iff]
  constructor
  · rintro ⟨seconds, hread, h⟩
    obtain ⟨digits, hdigits, hlength, rfl⟩ := readText_eq_ok_iff.1 hread
    obtain ⟨_, hwindow, h⟩ := bind_eq_ok_iff.1 h
    obtain rfl := Except.ok.inj h
    exact ⟨digits, hdigits, hlength, rfl, checkWindow_eq_ok_iff.1 hwindow⟩
  · rintro ⟨digits, hdigits, hlength, rfl, hwindow⟩
    refine ⟨_, readText_eq_ok_iff.2 ⟨digits, hdigits, hlength, rfl⟩, ?_⟩
    rw [bind_eq_ok_iff]
    exact ⟨(), checkWindow_eq_ok_iff.2 hwindow, rfl⟩

/-- A check ends in the reading or in the comparison with the clock. -/
theorem check_eq_error_iff {halt : Halt} : check (.whole now) tolerance (.text text) = .error halt ↔
    readText text = .error halt ∨ ∃ digits, digits? text = some digits ∧
      digits.length ≤ digitLimit ∧
        checkWindow (.whole now) tolerance (moment digits) = .error halt := by
  rw [check, bind_eq_error_iff]
  constructor
  · rintro (hread | ⟨seconds, hread, h⟩)
    · exact .inl hread
    · obtain ⟨digits, hdigits, hlength, rfl⟩ := readText_eq_ok_iff.1 hread
      rcases bind_eq_error_iff.1 h with hwindow | ⟨_, -, h⟩
      · exact .inr ⟨digits, hdigits, hlength, hwindow⟩
      · exact absurd h (by simp [pure, Except.pure])
  · rintro (hread | ⟨digits, hdigits, hlength, hwindow⟩)
    · exact .inl hread
    · refine .inr ⟨_, readText_eq_ok_iff.2 ⟨digits, hdigits, hlength, rfl⟩, ?_⟩
      rw [bind_eq_error_iff]
      exact .inl hwindow

/-- **A text is rejected when it is no numeral**, or one of a moment outside the window. -/
theorem check_eq_rejected_iff {error : AuthError} :
    check (.whole now) tolerance (.text text) = .error (.rejected error) ↔
      digits? text = none ∧ error = .invalidTimestamp (.text text) ∨
        ∃ digits, digits? text = some digits ∧ digits.length ≤ digitLimit ∧
          checkWindow (.whole now) tolerance (moment digits) = .error (.rejected error) := by
  rw [check_eq_error_iff, readText_eq_rejected_iff]

/-- **A text is neither accepted nor rejected when it is a numeral that is too long to be read**, or
of a moment that no message can tell. -/
theorem check_eq_fault_iff : check (.whole now) tolerance (.text text) = .error (.fault fault) ↔
    ∃ digits, digits? text = some digits ∧
      (digitLimit < digits.length ∧ fault = .tooManyDigits (some digits.length) ∨
        digits.length ≤ digitLimit ∧
          checkWindow (.whole now) tolerance (moment digits) = .error (.fault fault)) := by
  rw [check_eq_error_iff, readText_eq_fault_iff, ← exists_or]
  simp only [← and_or_left]

/-! ## Timestamps that are written -/

/-- A number is written as one run of digits. -/
theorem digits?_toString (n : Nat) : digits? (toString n) = some (Nat.toDigits 10 n) := by
  rw [digits?_eq_some_iff, Nat.toString_eq_ofList_toDigits]
  exact isNumeral_ofList Nat.toDigits_ne_nil fun c hc =>
    Nat.isDigit_of_mem_toDigits (by decide) (by decide) hc

theorem isWritable_iff {n : Nat} :
    isWritable n = true ↔ (Nat.toDigits 10 n).length ≤ digitLimit := by
  have hlength (k : Nat) (hk : 0 < k) : (Nat.toDigits 10 n).length ≤ k ↔ n < Nat.pow 10 k :=
    Nat.length_toDigits_le_iff (by decide) hk
  rw [isWritable, decide_eq_true_eq, Int.natAbs_natCast, hlength digitLimit (by decide)]

theorem isWritable_of_natAbs_lt {k : Nat} (hk : k ≤ digitLimit) (h : n.natAbs < 10 ^ k) :
    isWritable n = true := by
  rw [isWritable, decide_eq_true_eq, Nat.pow_eq]
  -- no power of the limit itself is to be computed
  generalize digitLimit = limit at hk
  exact Nat.lt_of_lt_of_le h (Nat.pow_le_pow_right (by decide) hk)

/-- What has 64 bits may be written. -/
theorem isWritable_of_lt (h : 0 ≤ n) (hbound : n < 9223372036854775808) :
    isWritable n = true :=
  isWritable_of_natAbs_lt (k := 19) (by decide) (by omega)

/-- **The number that is written is the one that is read**, if it is not negative. -/
theorem readText_toString (h : 0 ≤ n) (hwritable : isWritable n = true) :
    readText (toString n) = .ok n := by
  obtain ⟨n, rfl⟩ := Int.eq_ofNat_of_zero_le h
  refine readText_eq_ok_iff.2 ⟨Nat.toDigits 10 n, digits?_toString n, isWritable_iff.1 hwritable, ?_⟩
  rw [moment, Nat.ofDigitChars_ten_toDigits]

/-- **The moment that is written is the one that is judged**, if it does not lie before the
beginning of 1970. -/
theorem check_toString (h : 0 ≤ n) (hwritable : isWritable n = true)
    (hwindow : distance now n ≤ tolerance) :
    check (.whole now) tolerance (.text (toString n)) = .ok n := by
  obtain ⟨digits, hdigits, hlength, hn⟩ := readText_eq_ok_iff.1 (readText_toString h hwritable)
  exact check_eq_ok_iff.2 ⟨digits, hdigits, hlength, hn, hwindow⟩

end Timestamp
end SignedHttp
