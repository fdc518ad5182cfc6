import StatusBar.Toml.Datetime.Fault

/-!
# Reading datetimes

`T`, `t` or a space may stand between date and time, and `Z` may be in either case. The numbers of a
date, of a time or of an offset are judged once all of them have been found: first how many digits
each of them has, then whether it is in its range. A second may be the sixty-first of its minute.

Readers take the input as a list of characters and return what they read together with the rest, or
what is wrong.
-/

namespace StatusBar.Toml.Datetime

open Clock (Date)

/-! ### Numbers -/

/-- The digits of a number, as many as there are. -/
def readDigits (field : Field) (cs : List Char) : Except Fault (List Char × List Char) :=
  let digits := cs.takeWhile Char.isDigit
  if digits.isEmpty then .error (.missing field)
  else .ok (digits, cs.dropWhile Char.isDigit)

/-- The digits of a number that is only there behind `mark`. -/
def readDigitsBehind (mark : Char) (field : Field) :
    List Char → Except Fault (Option (List Char) × List Char)
  | [] => .ok (none, [])
  | c :: cs => do
    if c = mark then
      let (digits, cs) ← readDigits field cs
      return (some digits, cs)
    else return (none, c :: cs)

/-- What follows the mark between two numbers. -/
def skipMark (before : Field) (mark : Char) (after : Field) :
    List Char → Except Fault (List Char)
  | [] => .error (.unmarked before mark after)
  | c :: cs => if c = mark then .ok cs else .error (.unmarked before mark after)

/-- The number with the given decimal digits. -/
def number (digits : List Char) : Nat := Nat.ofDigitChars 10 digits 0

/-- The number with the given digits, if there are as many as it has to have. -/
def sized (field : Field) (digits : List Char) : Except Fault Nat :=
  if digits.length = field.width then .ok (number digits) else .error (.wrongWidth field)

/-- Refuses a number below `low` or above `high`. -/
def checkRange (field : Field) (low high n : Nat) : Except Fault Unit :=
  if low ≤ n ∧ n ≤ high then .ok () else .error (.outOfRange field low high)

/-- The nanoseconds of a fraction of a second: the digits behind the ninth are dropped. -/
def nanoseconds (digits : List Char) : Nat :=
  number ((digits ++ List.replicate 9 '0').take 9)

/-! ### Parts -/

/-- Reads what follows the year and its dash in a date. -/
def readDate (year cs : List Char) : Except Fault (Date × List Char) := do
  let (month, cs) ← readDigits .month cs
  let cs ← skipMark .month '-' .day cs
  let (day, cs) ← readDigits .day cs
  let year ← sized .year year
  let month ← sized .month month
  let day ← sized .day day
  checkRange .month 1 12 month
  checkRange .day 1 (Clock.daysInMonth year month) day
  return (⟨year, month, day⟩, cs)

def readTime (cs : List Char) : Except Fault (TimeOfDay × List Char) := do
  let (hour, cs) ← readDigits .hour cs
  let cs ← skipMark .hour ':' .minute cs
  let (minute, cs) ← readDigits .minute cs
  let (second, cs) ← readDigitsBehind ':' .second cs
  let (fraction, cs) ←
    if second.isSome then readDigitsBehind '.' .nanosecond cs else .ok (none, cs)
  let hour ← sized .hour hour
  let minute ← sized .minute minute
  let second ← second.mapM (sized .second)
  checkRange .hour 0 23 hour
  checkRange .minute 0 59 minute
  checkRange .second 0 60 (second.getD 0)
  return (⟨hour, minute, second, fraction.map nanoseconds⟩, cs)

/-- Reads how many minutes an offset has. -/
def readOffsetMinutes (cs : List Char) : Except Fault (Nat × List Char) := do
  let (hours, cs) ← readDigits .offsetHour cs
  let cs ← skipMark .offsetHour ':' .offsetMinute cs
  let (minutes, cs) ← readDigits .offsetMinute cs
  let hours ← sized .offsetHour hours
  let minutes ← sized .offsetMinute minutes
  checkRange .offsetHour 0 23 hours
  checkRange .offsetMinute 0 59 minutes
  return (60 * hours + minutes, cs)

/-- Reads an offset. No characters mean no offset. -/
def readOffset : List Char → Except Fault (Option Offset × List Char)
  | [] => .ok (none, [])
  | 'Z' :: cs | 'z' :: cs => .ok (some .universal, cs)
  | '+' :: cs => do
    let (minutes, cs) ← readOffsetMinutes cs
    return (some (.ahead minutes), cs)
  | '-' :: cs => do
    let (minutes, cs) ← readOffsetMinutes cs
    return (some (.ahead (-minutes)), cs)
  | _ => .error .noOffset

/-! ### Datetimes -/

/-- What follows the date of a datetime. -/
def readBehindDate (date : Date) : List Char → Except Fault (Datetime × List Char)
  | [] => .ok (⟨some date, none, none⟩, [])
  | c :: cs => do
    if c = 'T' ∨ c = 't' ∨ c = ' ' then
      let (time, cs) ← readTime cs
      let (offset, cs) ← readOffset cs
      return (⟨some date, some time, offset⟩, cs)
    else .error .noSeparator

/-- Reads a datetime. The mark behind its first digits tells whether it has a date. -/
def readFront (cs : List Char) : Except Fault (Datetime × List Char) := do
  let digits := cs.takeWhile Char.isDigit
  if digits.isEmpty then .error .noDigits
  else
    match cs.dropWhile Char.isDigit with
    | '-' :: rest =>
      let (date, rest) ← readDate digits rest
      readBehindDate date rest
    | ':' :: _ =>
      let (time, rest) ← readTime cs
      return (⟨none, some time, none⟩, rest)
    | _ => .error .neitherDateNorTime

/-- Reads a datetime that fills `cs`. -/
def read (cs : List Char) : Except Fault Datetime := do
  match ← readFront cs with
  | (d, []) => return d
  | (_, _ :: _) => .error .trailing

/-- The datetime that fills `cs`, if there is one. -/
def ofChars? (cs : List Char) : Option Datetime := (read cs).toOption

/-- Whether there is a date and nothing else. -/
def isDate (d : Datetime) : Bool := d.date.isSome && d.time.isNone

end StatusBar.Toml.Datetime
