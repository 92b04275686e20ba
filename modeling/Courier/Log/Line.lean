import Courier.Calendar
import Courier.Log.Setup
import Courier.Number.Binary64

/-!
# Lines of the log

A record is written as one line: the date and the time at which it was made, the part that made it,
its level and its text. Clocks count seconds in 64 bits, and dates have years of 32 bits, so that
some moments have no date.

* `Log.Moment`: when a record was made.
* `Log.line?`: the line that is written for a record.
-/

namespace Courier.Log

/-! ## Moments -/

/-- A moment, in seconds from the beginning of 1970 on. -/
inductive Moment where
  | whole (second : Int)
  | real (second : Binary64)
  deriving DecidableEq, Repr

namespace Moment

/-- Why a moment has no date: it is no number, no clock reaches it, no calendar has its year, or its
year cannot be written. -/
inductive Fault where
  | notNumber
  | beyondClock
  | beyondCalendar
  | beyondWriting
  deriving DecidableEq, Repr

/-- The words for a moment without a date. -/
def Fault.message : Fault → Text
  | .notNumber => Text.ofString "Invalid value NaN (not a number)"
  | .beyondClock => Text.ofString "timestamp out of range for platform time_t"
  | .beyondCalendar => Text.ofString "[Errno 75] Value too large for defined data type"
  | .beyondWriting => Text.ofString "signed integer is greater than maximum"

/-- Half the number of integers of 64 bits. -/
def clockRange : Int := 0x8000000000000000

/-- Half the number of integers of 32 bits. -/
def yearRange : Int := 0x80000000

/-- A number of seconds that a clock reaches. -/
def onClock (second : Int) : Except Fault Int :=
  if -clockRange ≤ second && second < clockRange then .ok second else .error .beyondClock

/-- The last second that has begun at a moment. -/
def second? : Moment → Except Fault Int
  | .whole second => onClock second
  | .real second =>
    if second.isNaN then .error .notNumber
    else if !second.isFinite then .error .beyondClock
    else onClock second.floor

/-- The year from which calendars count. -/
def firstYear : Int := 1900

/-- A year that is within 32 bits of the first one, and of 32 bits itself. -/
def checkYear (year : Int) : Except Fault Unit :=
  if year - firstYear < -yearRange || yearRange ≤ year - firstYear then .error .beyondCalendar
  else if yearRange ≤ year then .error .beyondWriting
  else .ok ()

end Moment

/-! ## Lines -/

/-- A number with zeros in front to make two digits. -/
def twoDigits (n : Nat) : Text := (if n < 10 then Text.ofString "0" else []) ++ Text.ofNat n

/-- The date and time of a second, in UTC. -/
def timestamp (second : Int) : Text :=
  let day := Calendar.dayOfSecond second
  let rest := (second - day * Calendar.secondsOfDay).toNat
  let (year, month, dayOfMonth) := Calendar.dateOfDay day
  Text.ofInt year ++ Text.ofString "-" ++ twoDigits month ++ Text.ofString "-"
    ++ twoDigits dayOfMonth ++ Text.ofString " " ++ twoDigits (rest / 3600) ++ Text.ofString ":"
    ++ twoDigits (rest / 60 % 60) ++ Text.ofString ":" ++ twoDigits (rest % 60)

/-- The date and time of a moment. -/
def Moment.timestamp? (m : Moment) : Except Moment.Fault Text := do
  let second ← m.second?
  checkYear (Calendar.yearOfSecond second)
  pure (timestamp second)

/-- The line that is written for a record, in the format that `configure_logging` asks for. -/
def line? (made : Moment) (logger : Text) (level : Int) (message : Text) :
    Except Moment.Fault Text := do
  let dash := Text.ofString " - "
  pure ((← made.timestamp?) ++ dash ++ logger ++ dash ++ levelName level ++ dash ++ message)

end Courier.Log
