/-!
# HTTP dates

* `HttpDate.civil`: the year, month and day of a day number in the Gregorian calendar, extended to
  all years.
* `HttpDate.format`: the date and time of a moment, for the years from 1 to 9999.
* `DateError`: why a moment has none. Moments are counted with 64 bits and years with 32.
-/

set_option autoImplicit false

namespace SignedHttp

inductive DateError
  /-- The moment is no clock time. -/
  | beyondClock
  /-- The year of the moment is none that a calendar date can have. -/
  | beyondCalendar
  /-- The year is none that a date can be written for. -/
  | yearOutOfRange (year : Int)
  deriving DecidableEq

def DateError.message : DateError → String
  | .beyondClock => "timestamp out of range for platform time_t"
  | .beyondCalendar => "[Errno 75] Value too large for defined data type"
  | .yearOutOfRange year => s!"year {year} is out of range"

namespace HttpDate

/-- The year, month and day that lie `days` days after the first of January 1970. Years are counted
from March, so that a leap day ends its year, in cycles of 400. -/
def civil (days : Int) : Int × Int × Int :=
  let shifted := days + 719468
  let cycle := shifted / 146097
  let inCycle := shifted % 146097
  let yearInCycle := (inCycle - inCycle / 1460 + inCycle / 36524 - inCycle / 146096) / 365
  let inYear := inCycle - (365 * yearInCycle + yearInCycle / 4 - yearInCycle / 100)
  let fromMarch := (5 * inYear + 2) / 153
  let day := inYear - (153 * fromMarch + 2) / 5 + 1
  let month := if fromMarch < 10 then fromMarch + 3 else fromMarch - 9
  let year := yearInCycle + cycle * 400 + (if month ≤ 2 then 1 else 0)
  (year, month, day)

def weekdays : List String := ["Sun", "Mon", "Tue", "Wed", "Thu", "Fri", "Sat"]

def months : List String :=
  ["Jan", "Feb", "Mar", "Apr", "May", "Jun", "Jul", "Aug", "Sep", "Oct", "Nov", "Dec"]

/-- A number with zeros in front up to a width. -/
def zeroPadded (width n : Nat) : String :=
  let digits := toString n
  String.ofList (List.replicate (width - digits.length) '0') ++ digits

/-- Moments are counted with 64 bits, one of them for the sign. -/
def clockBound : Int := 9223372036854775808

/-- Years are counted from 1900 with 32 bits, one of them for the sign. -/
def yearBound : Int := 2147483648

/-- A year as 32 bits show it, counted from the beginning of the era. -/
def shownYear (year : Int) : Int := year.bmod 4294967296

/-- The date and time at a number of seconds after the beginning of 1970. -/
def format (seconds : Int) : Except DateError String :=
  if seconds < -clockBound || clockBound ≤ seconds then .error .beyondClock
  else
    let days := seconds / 86400
    let inDay := (seconds % 86400).toNat
    let (year, month, day) := civil days
    if year - 1900 < -yearBound || yearBound ≤ year - 1900 then .error .beyondCalendar
    else if year < 1 || 9999 < year then .error (.yearOutOfRange (shownYear year))
    else
      let weekday := weekdays.getD ((days + 4) % 7).toNat ""
      let monthName := months.getD (month - 1).toNat ""
      let clock := ":".intercalate
        [zeroPadded 2 (inDay / 3600), zeroPadded 2 (inDay / 60 % 60), zeroPadded 2 (inDay % 60)]
      .ok (weekday ++ ", " ++ " ".intercalate
        [zeroPadded 2 day.toNat, monthName, zeroPadded 4 year.toNat, clock, "GMT"])

end HttpDate
end SignedHttp
