import SignedHttp.Clock
import SignedHttp.Error
import SignedHttp.Text.Blank

/-!
# Timestamps

A timestamp is a run of ASCII digits, blanks around it not counted. It is accepted while it
differs from the clock by no more than a tolerance.

* `Timestamp.read`: the number of seconds that a header value denotes.
* `Timestamp.checkWindow`: the comparison with the clock, which ends in `Timestamp.turnAway` for a
  moment outside the window.
* `Timestamp.check`: both.
* `Halt`: why a check ends, which may be a fault of the numbers rather than a reason to reject.
-/

set_option autoImplicit false

namespace SignedHttp

inductive Halt
  | rejected (error : AuthError)
  | fault (fault : NumericFault)

namespace Timestamp

/-- The most digits that are read or written. -/
def digitLimit : Nat := 4300

/-- The digits of a timestamp. -/
def digits? (text : String) : Option (List Char) :=
  let cs := Text.trim text.toList
  if !cs.isEmpty && cs.all Char.isDigit then some cs else none

def readText (text : String) : Except Halt Int :=
  match digits? text with
  | none => .error (.rejected (.invalidTimestamp (.text text)))
  | some digits =>
    if digitLimit < digits.length then .error (.fault (.tooManyDigits (some digits.length)))
    else .ok (Nat.ofDigitChars 10 digits 0 : Nat)

/-- A value other than a text is no timestamp. -/
def read : Value → Except Halt Int
  | .text s => readText s
  | v => .error (.rejected (.invalidTimestamp v))

/-- Whether a message can name the number. -/
def isWritable (n : Int) : Bool := n.natAbs < Nat.pow 10 digitLimit

/-- Why a moment outside the window is turned away, in a message that names the tolerance. -/
def turnAway (direction : Direction) (distance : Binary64) (tolerance : Int) : Halt :=
  if isWritable tolerance then .rejected (.outsideWindow direction distance tolerance)
  else .fault (.tooManyDigits none)

/-- How far a moment is from the clock, and whether that is beyond the tolerance. A whole clock is
compared exactly, and only a distance that is reported is rounded. -/
def checkWindow (clock : Clock) (tolerance seconds : Int) : Except Halt Unit :=
  match clock with
  | .whole now =>
    let distance : Int := (now - seconds).natAbs
    if distance ≤ tolerance then .ok ()
    else
      match Binary64.ofInt? distance with
      | none => .error (.fault .beyondFloat)
      | some rounded =>
        .error (turnAway (if seconds < now then .past else .future) rounded tolerance)
  | .real now =>
    match Binary64.ofInt? seconds with
    | none => .error (.fault .beyondFloat)
    | some moment =>
      let distance := (now.sub moment).abs
      if distance.isAbove tolerance then
        .error (turnAway (if now.isAbove seconds then .past else .future) distance tolerance)
      else .ok ()

/-- The seconds of a timestamp that lies within the window. -/
def check (clock : Clock) (tolerance : Int) (declared : Value) : Except Halt Int := do
  let seconds ← read declared
  checkWindow clock tolerance seconds
  return seconds

end Timestamp
end SignedHttp
