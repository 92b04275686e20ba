/-!
# The calendar

Days are counted from 1970-01-01, and seconds from its beginning.

* `Calendar.dateOfDay`: the date of a day.
* `Calendar.dayOfDate`: the day of a date.
-/

namespace Courier.Calendar

/-- The seconds of a day. -/
def secondsOfDay : Int := 86400

/-- The date of a day, as year, month and day of the month. -/
def dateOfDay (day : Int) : Int × Nat × Nat :=
  -- years begin in March here, so that the leap day is the last of its year
  let shifted := day + 719468
  let era := shifted.fdiv 146097
  let dayOfEra := (shifted - era * 146097).toNat
  let yearOfEra := (dayOfEra - dayOfEra / 1460 + dayOfEra / 36524 - dayOfEra / 146096) / 365
  let dayOfYear := dayOfEra - (365 * yearOfEra + yearOfEra / 4 - yearOfEra / 100)
  let monthFromMarch := (5 * dayOfYear + 2) / 153
  let dayOfMonth := dayOfYear - (153 * monthFromMarch + 2) / 5 + 1
  let month := if monthFromMarch < 10 then monthFromMarch + 3 else monthFromMarch - 9
  let year := era * 400 + yearOfEra + (if month ≤ 2 then 1 else 0)
  (year, month, dayOfMonth)

/-- The day of a date. A day beyond the end of its month runs on into the next. -/
def dayOfDate (year : Int) (month dayOfMonth : Nat) : Int :=
  let yearFromMarch := if month ≤ 2 then year - 1 else year
  let era := yearFromMarch.fdiv 400
  let yearOfEra := yearFromMarch - era * 400
  let monthFromMarch := if month ≤ 2 then month + 9 else month - 3
  let dayOfYear : Int := ((153 * monthFromMarch + 2) / 5 + dayOfMonth : Nat) - 1
  era * 146097 + yearOfEra * 365 + yearOfEra / 4 - yearOfEra / 100 + dayOfYear - 719468

/-- The day on which a second lies. -/
def dayOfSecond (second : Int) : Int := second.fdiv secondsOfDay

/-- The year in which a second lies. -/
def yearOfSecond (second : Int) : Int := (dateOfDay (dayOfSecond second)).1

end Courier.Calendar
