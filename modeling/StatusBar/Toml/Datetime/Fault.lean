import StatusBar.Toml.Datetime

/-!
# Faults of datetimes

A text that is no datetime is at fault in one place, the first one where a reader cannot go on or
finds a number that does not fit. A fault tells what was expected there.
-/

namespace StatusBar.Toml.Datetime

/-- A number in the text of a datetime. -/
inductive Field where
  | year
  | month
  | day
  | hour
  | minute
  | second
  /-- The fraction of a second. -/
  | nanosecond
  | offsetHour
  | offsetMinute
deriving Repr, DecidableEq, Inhabited

namespace Field

/-- The part of a datetime that has the number. -/
def part : Field → String
  | year | month | day => "date"
  | hour | minute | second | nanosecond => "time"
  | offsetHour | offsetMinute => "offset"

/-- What the number is called. -/
def name : Field → String
  | year => "year"
  | month => "month"
  | day => "day"
  | hour | offsetHour => "hour"
  | minute | offsetMinute => "minute"
  | second => "second"
  | nanosecond => "nanosecond"

/-- What the number is called where its range is told: an offset has hours and minutes. -/
def measure : Field → String
  | offsetHour => "hours"
  | offsetMinute => "minutes"
  | field => field.name

/-- How many digits the number has. A fraction has any number of them, and the first nine count. -/
def width : Field → Nat
  | year => 4
  | nanosecond => 9
  | _ => 2

/-- The number of digits in words. -/
def widthName : Field → String
  | year => "four-digit"
  | nanosecond => "nine-digit"
  | _ => "two-digit"

/-- The letter that stands for each digit of the number. -/
def letter : Field → Char
  | year => 'Y'
  | month | minute | offsetMinute => 'M'
  | day => 'D'
  | hour | offsetHour => 'H'
  | second => 'S'
  | nanosecond => 'N'

/-- The digits of the number as letters. -/
def pattern (field : Field) : String := "".pushn field.letter field.width

end Field

/-- What is wrong with a text that is no datetime. -/
inductive Fault where
  /-- The text does not begin with digits. -/
  | noDigits
  /-- Its first digits are neither those of a date nor those of a time. -/
  | neitherDateNorTime
  /-- A number has no digits. -/
  | missing (field : Field)
  /-- The mark between two numbers is not there. -/
  | unmarked (before : Field) (mark : Char) (after : Field)
  /-- A number has too few or too many digits. -/
  | wrongWidth (field : Field)
  /-- A number is below `low` or above `high`. -/
  | outOfRange (field : Field) (low high : Nat)
  /-- What follows the date cannot stand between a date and a time. -/
  | noSeparator
  /-- What follows the time does not begin an offset. -/
  | noOffset
  /-- The text goes on where a datetime has to end. -/
  | trailing
deriving Repr, DecidableEq, Inhabited

namespace Fault

/-- At least two digits of a number. -/
def twoDigits (n : Nat) : String := String.ofList (zeroPadded 2 n)

def message : Fault → String
  | noDigits => "invalid datetime, expected year or hour"
  | neitherDateNorTime => "invalid datetime, expected `-` (YYYY-MM) or `:` (HH:MM)"
  | missing field => s!"invalid {field.part}, expected {field.name}"
  | unmarked before mark after =>
    s!"invalid {after.part}, expected `{mark}` ({before.pattern}{mark}{after.pattern})"
  | wrongWidth field =>
    s!"invalid {field.part}, expected a {field.widthName} {field.name} ({field.pattern})"
  | outOfRange field low high =>
    s!"invalid {field.part}, expected {field.measure} between {twoDigits low} and {twoDigits high}"
  | noSeparator => "invalid date-time, expected `T` between date and time"
  | noOffset => "invalid offset, expected `Z`, +OFFSET, -OFFSET"
  | trailing => "invalid datetime"

end Fault

end StatusBar.Toml.Datetime
