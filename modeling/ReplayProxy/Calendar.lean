/-!
# The calendar

Dates of the Gregorian calendar, extended to all years before and after, and the days
and seconds since the first of January 1970. `Date.ofDay` and `Date.day` go from one to
the other.

The calendar repeats every 400 years, which are 146097 days. Within such an *era* years
are counted from March, so that the day that is added in a leap year is the last one.
-/

namespace ReplayProxy

/-- A day by its year, month and day of the month. -/
structure Date where
  year : Int
  month : Int
  dayOfMonth : Int
  deriving DecidableEq, Repr

namespace Date

/-- The days from the first of March of the year 0 to the first of January 1970. -/
def epoch : Int := 719468

/-- The days of an era. -/
def eraDays : Int := 146097

/-- The days from the first of March to a month, counted from March as zero. -/
def daysBefore (month : Int) : Int := (153 * month + 2) / 5

/-- The date of a day. -/
def ofDay (day : Int) : Date :=
  let z := day + epoch
  let inEra := z % eraDays
  let yearInEra := (inEra - inEra / 1460 + inEra / 36524 - inEra / 146096) / 365
  let inYear := inEra - (365 * yearInEra + yearInEra / 4 - yearInEra / 100)
  let month := (5 * inYear + 2) / 153
  let year := yearInEra + z / eraDays * 400
  ⟨if month < 10 then year else year + 1, if month < 10 then month + 3 else month - 9,
    inYear - daysBefore month + 1⟩

/-- The day of a date. -/
def day (d : Date) : Int :=
  let year := if d.month ≤ 2 then d.year - 1 else d.year
  let month := if d.month ≤ 2 then d.month + 9 else d.month - 3
  let yearInEra := year % 400
  let inYear := daysBefore month + d.dayOfMonth - 1
  year / 400 * eraDays + yearInEra * 365 + yearInEra / 4 - yearInEra / 100 + inYear - epoch

/-- Whether there is such a day. -/
def isValid (d : Date) : Bool := 1 ≤ d.month && d.month ≤ 12 && ofDay d.day == d

end Date

/-- The seconds of a day. -/
def daySeconds : Int := 86400

end ReplayProxy
