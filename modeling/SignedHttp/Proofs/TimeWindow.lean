import Mathlib.Algebra.Order.Ring.Int
import Mathlib.Data.Nat.Digits.Defs
import Mathlib.Tactic.Zify
import SignedHttp.Proofs.Current.SignedText
import SignedHttp.Proofs.Verdict

/-!
# The exact time window

`SignedHttp.Proofs.Timestamp` describes the check of a timestamp by the steps that it takes.  Here
the same check is told from the text: which characters a numeral consists of
(`Timestamp.IsNumeral`), which number it denotes, and which numbers lie in the window.

* `Timestamp.decimal`: the value of digits in base ten.
* `Timestamp.check_spec`: what is accepted and with which number, what is refused as no numeral,
  and what is refused as too early or too late.
-/

set_option autoImplicit false

namespace SignedHttp
namespace Timestamp

variable {now tolerance n : Int} {text : String} {digits : List Char}

/-! ## The value of digits -/

def digitValue (c : Char) : Nat := c.toNat - '0'.toNat

/-- The number that digits denote in base ten, where the last one counts least. -/
def decimal (digits : List Char) : Nat := Nat.ofDigits 10 (digits.reverse.map digitValue)

theorem decimal_concat (digits : List Char) (c : Char) :
    decimal (digits ++ [c]) = digitValue c + 10 * decimal digits := by
  rw [decimal, List.reverse_append, List.reverse_singleton, List.singleton_append, List.map_cons,
    Nat.ofDigits_cons, decimal]

/-- **Digits are read with their value in base ten**, the first one first. -/
theorem moment_eq_decimal (digits : List Char) : moment digits = decimal digits := by
  have hvalue : Nat.ofDigitChars 10 digits 0 = decimal digits := by
    induction digits using List.reverseRecOn with
    | nil => rfl
    | append_singleton digits c ih =>
      rw [Nat.ofDigitChars_append, ih, Nat.ofDigitChars_cons, Nat.ofDigitChars_nil, decimal_concat,
        digitValue, Nat.add_comm]
  rw [moment, hvalue]

/-! ## The window -/

/-- Under a negative tolerance nothing lies within. -/
theorem distance_le_iff : distance now n ≤ tolerance ↔ now - tolerance ≤ n ∧ n ≤ now + tolerance := by
  rw [distance]
  omega

/-- **What is accepted.** -/
theorem check_eq_ok_iff_isNumeral : check (.whole now) tolerance (.text text) = .ok n ↔
    ∃ digits, IsNumeral text digits ∧ digits.length ≤ 4300 ∧ n = decimal digits ∧
      now - tolerance ≤ n ∧ n ≤ now + tolerance := by
  simp only [check_eq_ok_iff, digits?_eq_some_iff, moment_eq_decimal, distance_le_iff, digitLimit]

/-- **What is refused as no numeral.**  A numeral may be refused too, but for another reason. -/
theorem exists_check_eq_rejected_iff :
    (∃ error, check (.whole now) tolerance (.text text) = .error (.rejected error) ∧
        error.kind = .invalidRequiredHeader) ↔ ¬∃ digits, IsNumeral text digits := by
  rw [← digits?_eq_none_iff]
  constructor
  · rintro ⟨error, hcheck, hkind⟩
    rcases check_eq_rejected_iff.1 hcheck with ⟨hnone, -⟩ | ⟨digits, -, -, hwindow⟩
    · exact hnone
    · obtain ⟨-, -, rounded, -, rfl⟩ := checkWindow_eq_rejected_iff.1 hwindow
      exact absurd hkind (by simp [AuthError.kind])
  · intro hnone
    exact ⟨_, check_eq_rejected_iff.2 (.inl ⟨hnone, rfl⟩), rfl⟩

theorem lt_overflow : 10 ^ 300 < Binary64.overflow := by
  decide +kernel

/-- Numbers of this size can be told. -/
theorem judgeable_of_natAbs_lt (hlength : digits.length ≤ 4300)
    (hdistance : (now - decimal digits).natAbs < 10 ^ 300) (htolerance : tolerance.natAbs < 10 ^ 300) :
    Judgeable now tolerance digits where
  readable := hlength
  tellable := by
    intro _
    have hlt := lt_overflow
    refine ⟨?_, isWritable_of_natAbs_lt (by decide) htolerance⟩
    rw [moment_eq_decimal, distance]
    omega

/-- **What is refused as too early or too late.** -/
theorem exists_check_eq_outsideWindow (hnumeral : IsNumeral text digits)
    (hlength : digits.length ≤ 4300)
    (hbeyond : ¬(now - tolerance ≤ decimal digits ∧ decimal digits ≤ now + tolerance))
    (hdistance : (now - decimal digits).natAbs < 10 ^ 300)
    (htolerance : tolerance.natAbs < 10 ^ 300) :
    ∃ rounded, Binary64.ofInt? (now - decimal digits).natAbs = some rounded ∧
      check (.whole now) tolerance (.text text) = .error (.rejected
        (.outsideWindow (if decimal digits < now then .past else .future) rounded tolerance)) := by
  have hjudgeable := judgeable_of_natAbs_lt hlength hdistance htolerance
  have hfar : tolerance < distance now (moment digits) := by
    rw [moment_eq_decimal]
    exact Int.not_le.1 (mt distance_le_iff.1 hbeyond)
  have hsome : Binary64.ofInt? (distance now (moment digits)) ≠ none := fun hnone =>
    absurd ((ofInt?_distance_eq_none_iff _ _).1 hnone) (Int.not_le.2 (hjudgeable.tellable hfar).1)
  obtain ⟨rounded, hrounded⟩ := Option.ne_none_iff_exists'.1 hsome
  have hcheck := hjudgeable.check_eq_rejected (digits?_eq_some_iff.2 hnumeral) hfar hrounded
  rw [moment_eq_decimal] at hrounded hcheck
  exact ⟨rounded, hrounded, hcheck⟩

/-- The message says on which side of the window the moment lies. -/
theorem message_outsideWindow (p : Prop) [Decidable p] (rounded : Binary64) (tolerance : Int) :
    let side := if p then "past" else "future"
    (AuthError.outsideWindow (if p then .past else .future) rounded tolerance).message =
      s!"Request timestamp too far in the {side}: {rounded.wholeText} seconds" ++
        s!" (max: {tolerance})" := by
  have hword : (if p then Direction.past else Direction.future).word =
      if p then "past" else "future" := by
    split
    · rfl
    · rfl
  have hmessage (direction : Direction) :
      (AuthError.outsideWindow direction rounded tolerance).message =
        s!"Request timestamp too far in the {direction.word}: {rounded.wholeText} seconds" ++
          s!" (max: {tolerance})" :=
    rfl
  rw [hmessage, hword]

/-! ## Timestamps that a signer writes -/

/-- The timestamp that a request gets before it is signed is read as the moment of signing. -/
theorem readText_signingHeaders (r : Request) (h : 0 ≤ n) (hwritable : isWritable n = true) :
    ∃ value, (Headers.mk (CurrentScheme.signingHeaders r n)).get? Headers.timestamp = some value ∧
      readText value = .ok n := by
  refine ⟨toString n, ?_, readText_toString h hwritable⟩
  rw [CurrentScheme.signingHeaders, Headers.get?_cons, if_pos (Headers.sameName_iff.2 rfl)]

/-- **The check of a timestamp under a whole clock**, told from the text.  It gives the number of a
numeral that is short enough and whose moment is in the window, both ends included.  It refuses what
is no numeral for that reason, and a moment before or after the window with a message that says
which, as long as the distance and the tolerance are of a size that the message can tell.  And what
a signer writes is read as the number that was written. -/
theorem check_spec (text : String) (now tolerance : Int) :
    (∀ n, check (.whole now) tolerance (.text text) = .ok n ↔
      ∃ digits, IsNumeral text digits ∧ digits.length ≤ 4300 ∧ n = decimal digits ∧
        now - tolerance ≤ n ∧ n ≤ now + tolerance) ∧
    ((∃ error, check (.whole now) tolerance (.text text) = .error (.rejected error) ∧
        error.kind = .invalidRequiredHeader) ↔ ¬∃ digits, IsNumeral text digits) ∧
    (∀ digits, IsNumeral text digits → digits.length ≤ 4300 →
      ¬(now - tolerance ≤ decimal digits ∧ decimal digits ≤ now + tolerance) →
        (now - decimal digits).natAbs < 10 ^ 300 → tolerance.natAbs < 10 ^ 300 →
          ∃ rounded error, Binary64.ofInt? (now - decimal digits).natAbs = some rounded ∧
            check (.whole now) tolerance (.text text) = .error (.rejected error) ∧
            error.kind = .timestampRange ∧
            let side := if decimal digits < now then "past" else "future"
            error.message =
              s!"Request timestamp too far in the {side}: {rounded.wholeText} seconds" ++
                s!" (max: {tolerance})") ∧
    ∀ (r : Request) (n : Int), 0 ≤ n → n < 10 ^ 4300 →
      ∃ value, (Headers.mk (CurrentScheme.signingHeaders r n)).get? Headers.timestamp = some value ∧
        readText value = .ok n := by
  refine ⟨fun n => check_eq_ok_iff_isNumeral, exists_check_eq_rejected_iff, ?_, ?_⟩
  · intro digits hnumeral hlength hbeyond hdistance htolerance
    obtain ⟨rounded, hrounded, hcheck⟩ :=
      exists_check_eq_outsideWindow hnumeral hlength hbeyond hdistance htolerance
    exact ⟨rounded, _, hrounded, hcheck, rfl, message_outsideWindow _ rounded tolerance⟩
  · intro r n hn hbound
    have hsize : n.natAbs < 10 ^ 4300 := by
      zify
      rwa [abs_of_nonneg hn]
    exact readText_signingHeaders r hn (isWritable_of_natAbs_lt (by decide) hsize)

/-! A numeral with leading zeros between blanks that are no spaces.  It is accepted at the edge of a
window; under a negative tolerance even the present moment is outside, and counts as too late. -/

def oddText : String := "\u2003\t00042\n"

theorem odd_isNumeral : IsNumeral oddText "00042".toList where
  blanks := ⟨['\u2003', '\t'], ['\n'], rfl, List.all_eq_true.1 (by decide),
    List.all_eq_true.1 (by decide)⟩
  ne := by decide
  digit := List.all_eq_true.1 (by decide)

theorem odd_checked :
    IsNumeral oddText "00042".toList ∧
    check (.whole 1000) 958 (.text oddText) = .ok 42 ∧
    (∃ error, check (.whole 42) (-1) (.text oddText) = .error (.rejected error) ∧
      error.kind = .timestampRange ∧
      error.message = "Request timestamp too far in the future: 0 seconds (max: -1)") ∧
    ∃ value, (Headers.mk (CurrentScheme.signingHeaders CurrentScheme.sampleRequest 42)).get?
        Headers.timestamp = some value ∧ readText value = .ok 42 := by
  obtain ⟨hok, -, -, hwritten⟩ := check_spec oddText 1000 958
  obtain ⟨-, -, houtside, -⟩ := check_spec oddText 42 (-1)
  have hvalue : decimal "00042".toList = 42 := by decide
  obtain ⟨rounded, error, hrounded, hcheck, hkind, hmessage⟩ := houtside "00042".toList
    odd_isNumeral (by decide) (by decide) (by decide +kernel) (by decide +kernel)
  refine ⟨odd_isNumeral, (hok 42).2 ⟨_, odd_isNumeral, by decide, by decide, by decide, by decide⟩,
    ⟨error, hcheck, hkind, ?_⟩, hwritten CurrentScheme.sampleRequest 42 (by decide) ?_⟩
  · have hzero : Binary64.ofInt? (42 - (42 : Int)).natAbs = some (.finite false 0 (-1074)) := by
      decide +kernel
    rw [hvalue] at hrounded hmessage
    obtain rfl := Option.some.inj (hrounded.symm.trans hzero)
    exact hmessage.trans (by decide +kernel)
  · exact Int.lt_of_lt_of_le (b := 10 ^ 2) (by decide) (by gcongr <;> decide)

end Timestamp
end SignedHttp
