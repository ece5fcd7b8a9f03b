import SignedHttp.Number.Binary64

/-!
# Clocks

The time of a clock in seconds since the beginning of 1970, whole or with a fraction.

* `Clock.seconds`: the whole seconds.
-/

set_option autoImplicit false

namespace SignedHttp

inductive Clock
  | whole (seconds : Int)
  | real (seconds : Binary64)
  deriving DecidableEq

/-- A clock that shows no time. -/
inductive ClockError
  | infinite
  | notANumber
  deriving DecidableEq

def ClockError.message : ClockError → String
  | .infinite => "cannot convert float infinity to integer"
  | .notANumber => "cannot convert float NaN to integer"

def Clock.seconds : Clock → Except ClockError Int
  | .whole n => .ok n
  | .real .nan => .error .notANumber
  | .real x =>
    match x.truncated? with
    | some n => .ok n
    | none => .error .infinite

end SignedHttp
