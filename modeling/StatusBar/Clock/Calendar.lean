/-!
# The calendar

Days are counted from 1 January 1970, in the Gregorian calendar. A year is taken to begin in March,
so that the leap day is its last: then the months before a given one always have the same number of
days, and the four-year and hundred-year rules only concern the end of a year.
-/

namespace StatusBar.Clock

/-- Whether `year` has a 29 February. -/
def isLeap (year : Nat) : Bool :=
  year % 4 == 0 && (year % 100 != 0 || year % 400 == 0)

/-- The number of days of a month, counted from 1. -/
def daysInMonth (year month : Nat) : Nat :=
  match month with
  | 2 => if isLeap year then 29 else 28
  | 4 | 6 | 9 | 11 => 30
  | _ => 31

structure Date where
  year : Nat
  /-- From 1, January. -/
  month : Nat
  /-- From 1. -/
  day : Nat
deriving Repr, DecidableEq, Inhabited

namespace Date

/-- The date that lies `days` days after 1 January 1970. -/
def ofDays (days : Nat) : Date :=
  -- days since 1 March 0000
  let shifted := days + 719468
  let era := shifted / 146097
  let dayOfEra := shifted % 146097
  let yearOfEra := (dayOfEra - dayOfEra / 1460 + dayOfEra / 36524 - dayOfEra / 146096) / 365
  let dayOfYear := dayOfEra - (365 * yearOfEra + yearOfEra / 4 - yearOfEra / 100)
  let marchMonth := (5 * dayOfYear + 2) / 153
  let day := dayOfYear - (153 * marchMonth + 2) / 5 + 1
  let month := if marchMonth < 10 then marchMonth + 3 else marchMonth - 9
  ⟨400 * era + yearOfEra + (if month ≤ 2 then 1 else 0), month, day⟩

/-- The position of the day in its year, from 1. -/
def ordinal (d : Date) : Nat :=
  (List.range (d.month - 1)).foldl (fun days m => days + daysInMonth d.year (m + 1)) d.day

/-- The days from 1 January 1970 to 1 January of `year`, which is not earlier. -/
def daysBeforeYear (year : Nat) : Nat :=
  let y := year - 1
  365 * y + y / 4 - y / 100 + y / 400 - 719162

/-- The day of the week of a day, counted from Monday, 0. The first of January 1970 was a
Thursday. -/
def weekdayOfDays (days : Nat) : Nat := (days + 3) % 7

/-- The day of the week, counted from Monday, 0. -/
def weekday (d : Date) : Nat := weekdayOfDays (daysBeforeYear d.year + d.ordinal - 1)

/-- The day of the week, counted from Sunday, 0. -/
def weekdayFromSunday (d : Date) : Nat := (d.weekday + 1) % 7

/-- The number of the week when weeks begin on Sunday, and the days before the first Sunday make
week 0. -/
def weekFromSunday (d : Date) : Nat := (d.ordinal + 6 - d.weekdayFromSunday) / 7

/-- The number of the week when weeks begin on Monday, and the days before the first Monday make
week 0. -/
def weekFromMonday (d : Date) : Nat := (d.ordinal + 6 - d.weekday) / 7

/-- How many weeks a year has whose weeks belong to it with their Thursday. -/
def weeksInYear (year : Nat) : Nat :=
  let first := weekdayOfDays (daysBeforeYear year)
  if first = 3 || (first = 2 && isLeap year) then 53 else 52

/-- The year and the number of the week of the day, where a week begins on Monday and belongs to
the year of its Thursday. -/
def isoWeek (d : Date) : Nat × Nat :=
  let week := (d.ordinal + 9 - d.weekday) / 7
  if week = 0 then (d.year - 1, weeksInYear (d.year - 1))
  else if week = 53 && weeksInYear d.year = 52 then (d.year + 1, 1)
  else (d.year, week)

/-- The quarter of the year, from 1. -/
def quarter (d : Date) : Nat := (d.month - 1) / 3 + 1

end Date

end StatusBar.Clock
