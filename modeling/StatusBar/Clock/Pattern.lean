import StatusBar.Clock.Calendar
import StatusBar.Text.Blank

/-!
# Patterns for dates and times

A pattern is text with specifiers, in which `%Y` stands for the year, `%H` for the hour and so on,
in the manner of `strftime`. `Item.parse` takes a pattern apart, and `format?` writes a moment after
it. A numeric specifier may be padded in another way than its own: `-` asks for no padding, `_` for
spaces and `0` for zeros.

Two kinds of items cannot be written: a malformed specifier, and the permissive offset `%#z`, which
only makes sense in reading.

All moments are in universal time, and the names are English.
-/

namespace StatusBar.Clock

/-- A moment, by the seconds since 1 January 1970 and the nanoseconds of the next second. -/
structure Moment where
  seconds : Nat
  nanoseconds : Nat := 0
deriving Repr, DecidableEq, Inhabited

namespace Moment

/-- The last second that has a date: the end of the year 262142. -/
def lastDated : Nat := 8210266876799

/-- Whether the calendar reaches as far as the moment. -/
def isDated (m : Moment) : Bool := m.seconds ≤ lastDated

def date (m : Moment) : Date := Date.ofDays (m.seconds / 86400)

def hour (m : Moment) : Nat := m.seconds % 86400 / 3600

def minute (m : Moment) : Nat := m.seconds % 3600 / 60

def second (m : Moment) : Nat := m.seconds % 60

/-- The hour on a clock face, from 1 to 12. -/
def hour12 (m : Moment) : Nat := (m.hour + 11) % 12 + 1

def isAfternoon (m : Moment) : Bool := 12 ≤ m.hour

def fraction (m : Moment) : Nat := m.nanoseconds % 1000000000

end Moment

/-! ### Items -/

/-- How a number is filled up to its width. -/
inductive Pad where
  | none
  | zero
  | space
deriving Repr, DecidableEq

/-- A number of a moment. -/
inductive Numeric where
  | year | century | yearOfCentury
  | isoYear | isoYearOfCentury
  | quarter | month | day | ordinal
  | weekFromSunday | weekFromMonday | isoWeek
  | weekdayFromSunday | weekdayFromMonday
  | hour | hour12 | minute | second | nanosecond
  | timestamp
deriving Repr, DecidableEq

/-- Any other part of a moment. -/
inductive Fixed where
  | shortMonth | longMonth | shortWeekday | longWeekday
  | lowerHalf | upperHalf
  /-- The fraction of the second with a point, in as many groups of three digits as it needs. -/
  | fraction
  /-- The fraction with a point and `3 * groups` digits. -/
  | dottedFraction (groups : Nat)
  /-- The fraction in `3 * groups` digits without a point. -/
  | plainFraction (groups : Nat)
  | zoneName
  | offset | offsetColon | offsetSeconds | offsetHours
  /-- An offset that only makes sense in reading. -/
  | permissiveOffset
  /-- Date, time and offset in full. -/
  | complete
deriving Repr, DecidableEq

/-- An item of a pattern. -/
inductive Item where
  | literal (text : List Char)
  | numeric (field : Numeric) (pad : Pad)
  | fixed (field : Fixed)
  /-- A malformed specifier. -/
  | malformed
deriving Repr, DecidableEq

namespace Item

def zeros (field : Numeric) : Item := .numeric field .zero

def spaces (field : Numeric) : Item := .numeric field .space

/-- A number that is not filled up. -/
def bare (field : Numeric) : Item := .numeric field .none

def time : List Item :=
  [zeros .hour, .literal [':'], zeros .minute, .literal [':'], zeros .second]

def slashedDate : List Item :=
  [zeros .month, .literal ['/'], zeros .day, .literal ['/'], zeros .yearOfCentury]

/-- The items that a specifier of one letter stands for. -/
def ofLetter : Char → List Item
  | 'A' => [.fixed .longWeekday]
  | 'B' => [.fixed .longMonth]
  | 'C' => [zeros .century]
  | 'D' => slashedDate
  | 'F' => [zeros .year, .literal ['-'], zeros .month, .literal ['-'], zeros .day]
  | 'G' => [zeros .isoYear]
  | 'H' => [zeros .hour]
  | 'I' => [zeros .hour12]
  | 'M' => [zeros .minute]
  | 'P' => [.fixed .lowerHalf]
  | 'R' => [zeros .hour, .literal [':'], zeros .minute]
  | 'S' => [zeros .second]
  | 'T' => time
  | 'U' => [zeros .weekFromSunday]
  | 'V' => [zeros .isoWeek]
  | 'W' => [zeros .weekFromMonday]
  | 'X' => time
  | 'Y' => [zeros .year]
  | 'Z' => [.fixed .zoneName]
  | 'a' => [.fixed .shortWeekday]
  | 'b' | 'h' => [.fixed .shortMonth]
  | 'c' =>
    [.fixed .shortWeekday, .literal [' '], .fixed .shortMonth, .literal [' '], spaces .day,
      .literal [' ']] ++ time ++ [.literal [' '], zeros .year]
  | 'd' => [zeros .day]
  | 'e' => [spaces .day]
  | 'f' => [zeros .nanosecond]
  | 'g' => [zeros .isoYearOfCentury]
  | 'j' => [zeros .ordinal]
  | 'k' => [spaces .hour]
  | 'l' => [spaces .hour12]
  | 'm' => [zeros .month]
  | 'n' => [.literal ['\n']]
  | 'p' => [.fixed .upperHalf]
  | 'q' => [bare .quarter]
  | 'r' =>
    [zeros .hour12, .literal [':'], zeros .minute, .literal [':'], zeros .second, .literal [' '],
      .fixed .upperHalf]
  | 's' => [bare .timestamp]
  | 't' => [.literal ['\t']]
  | 'u' => [bare .weekdayFromMonday]
  | 'v' => [spaces .day, .literal ['-'], .fixed .shortMonth, .literal ['-'], zeros .year]
  | 'w' => [bare .weekdayFromSunday]
  | 'x' => slashedDate
  | 'y' => [zeros .yearOfCentury]
  | 'z' => [.fixed .offset]
  | '+' => [.fixed .complete]
  | '%' => [.literal ['%']]
  | _ => [.malformed]

/-- The items of the specifier that is read behind `%` and an optional padding, and the rest of the
pattern. -/
def ofSpecifier : List Char → List Item × List Char
  | ':' :: ':' :: ':' :: 'z' :: rest => ([.fixed .offsetHours], rest)
  | ':' :: ':' :: 'z' :: rest => ([.fixed .offsetSeconds], rest)
  | ':' :: 'z' :: rest => ([.fixed .offsetColon], rest)
  | '.' :: '3' :: 'f' :: rest => ([.fixed (.dottedFraction 1)], rest)
  | '.' :: '6' :: 'f' :: rest => ([.fixed (.dottedFraction 2)], rest)
  | '.' :: '9' :: 'f' :: rest => ([.fixed (.dottedFraction 3)], rest)
  | '.' :: 'f' :: rest => ([.fixed .fraction], rest)
  | '3' :: 'f' :: rest => ([.fixed (.plainFraction 1)], rest)
  | '6' :: 'f' :: rest => ([.fixed (.plainFraction 2)], rest)
  | '9' :: 'f' :: rest => ([.fixed (.plainFraction 3)], rest)
  | c :: rest => (ofLetter c, rest)
  | [] => ([.malformed], [])

/-- Gives a single number another padding. Nothing else has one. -/
def repad (pad : Pad) : List Item → List Item
  | [.numeric field _] => [.numeric field pad]
  | _ => [.malformed]

/-- The items of the specifier that is read behind `%`, and the rest of the pattern. -/
def ofPadded : List Char → List Item × List Char
  | '-' :: cs => let (items, rest) := ofSpecifier cs; (repad .none items, rest)
  | '0' :: cs => let (items, rest) := ofSpecifier cs; (repad .zero items, rest)
  | '_' :: cs => let (items, rest) := ofSpecifier cs; (repad .space items, rest)
  | '#' :: 'z' :: rest => ([.fixed .permissiveOffset], rest)
  | '#' :: rest => ([.malformed], rest)
  | cs => ofSpecifier cs

theorem length_ofSpecifier_le (cs : List Char) : (ofSpecifier cs).2.length ≤ cs.length := by
  unfold ofSpecifier
  split <;> simp only [List.length_cons] <;> omega

theorem length_ofPadded_le (cs : List Char) : (ofPadded cs).2.length ≤ cs.length := by
  unfold ofPadded
  split
  all_goals
    first
    | (rename_i cs; have := length_ofSpecifier_le cs; simp only [List.length_cons]; omega)
    | (simp only [List.length_cons]; omega)
    | exact length_ofSpecifier_le _

def parse : List Char → List Item
  | [] => []
  | '%' :: cs => (ofPadded cs).1 ++ parse (ofPadded cs).2
  | c :: cs => .literal [c] :: parse cs
termination_by cs => cs.length
decreasing_by
  · have := length_ofPadded_le cs
    simp only [List.length_cons]
    omega
  · simp

/-- Whether a pattern has no malformed specifier. -/
def isValid (pattern : String) : Bool :=
  (parse pattern.toList).all (· != .malformed)

end Item

/-! ### Writing -/

def monthNames : List String :=
  ["January", "February", "March", "April", "May", "June", "July", "August", "September",
    "October", "November", "December"]

/-- The English names of the days of the week, from Monday. -/
def weekdayNames : List String :=
  ["Monday", "Tuesday", "Wednesday", "Thursday", "Friday", "Saturday", "Sunday"]

/-- The name at a position, in full or shortened to three letters. -/
def nameAt (names : List String) (i : Nat) (short : Bool) : List Char :=
  let name := (names.getD i "").toList
  if short then name.take 3 else name

/-- A number of at least `width` characters. -/
def filled (pad : Pad) (width n : Nat) : List Char :=
  let digits := Nat.toDigits 10 n
  match pad with
  | .none => digits
  | .zero => List.replicate (width - digits.length) '0' ++ digits
  | .space => List.replicate (width - digits.length) ' ' ++ digits

/-- The character `n` places behind `0`. -/
def digitLike (n : Nat) : Char := Char.ofNat ('0'.toNat + n)

/-- A number of two digits. Its tens are a single character even when there are more than nine of
them, and only the number modulo 256 counts. -/
def twoDigits (pad : Pad) (n : Nat) : List Char :=
  let n := n % 256
  match n / 10, pad with
  | 0, .none => [digitLike n]
  | 0, .space => [' ', digitLike n]
  | tens, _ => [digitLike tens, digitLike (n % 10)]

/-- A year: four digits, and with a sign when they are more. -/
def yearChars (pad : Pad) (year : Nat) : List Char :=
  if year < 1000 then filled pad 4 year
  else if year ≤ 9999 then filled .none 4 year
  else '+' :: filled .none 4 year

def Numeric.chars (field : Numeric) (pad : Pad) (m : Moment) : List Char :=
  let d := m.date
  match field with
  | year => yearChars pad d.year
  | century => twoDigits pad (d.year / 100)
  | yearOfCentury => twoDigits pad (d.year % 100)
  | isoYear => yearChars pad d.isoWeek.1
  | isoYearOfCentury => twoDigits pad (d.isoWeek.1 % 100)
  | quarter => [digitLike d.quarter]
  | month => twoDigits pad d.month
  | day => twoDigits pad d.day
  | ordinal => filled pad 3 d.ordinal
  | weekFromSunday => twoDigits pad d.weekFromSunday
  | weekFromMonday => twoDigits pad d.weekFromMonday
  | isoWeek => twoDigits pad d.isoWeek.2
  | weekdayFromSunday => [digitLike d.weekdayFromSunday]
  | weekdayFromMonday => [digitLike (d.weekday + 1)]
  | hour => twoDigits pad m.hour
  | hour12 => twoDigits pad m.hour12
  | minute => twoDigits pad m.minute
  | second => twoDigits pad m.second
  | nanosecond => filled pad 9 m.fraction
  | timestamp => filled pad 9 m.seconds

/-- The fraction of a second in `3 * groups` digits. -/
def fractionDigits (groups : Nat) (m : Moment) : List Char :=
  (filled .zero 9 m.fraction).take (3 * groups)

/-- The fraction of a second with a point, in as many groups of three digits as it needs. -/
def shortFraction (m : Moment) : List Char :=
  if m.fraction = 0 then []
  else if m.fraction % 1000000 = 0 then '.' :: fractionDigits 1 m
  else if m.fraction % 1000 = 0 then '.' :: fractionDigits 2 m
  else '.' :: fractionDigits 3 m

/-- Date, time and offset in full. -/
def completeChars (m : Moment) : List Char :=
  let d := m.date
  yearChars .zero d.year ++ '-' :: twoDigits .zero d.month ++ '-' :: twoDigits .zero d.day
    ++ 'T' :: twoDigits .zero m.hour ++ ':' :: twoDigits .zero m.minute
    ++ ':' :: twoDigits .zero m.second ++ shortFraction m ++ "+00:00".toList

/-- Writes any other part of a moment, if it can be written. -/
def Fixed.chars? (field : Fixed) (m : Moment) : Option (List Char) :=
  match field with
  | shortMonth => some (nameAt monthNames (m.date.month - 1) true)
  | longMonth => some (nameAt monthNames (m.date.month - 1) false)
  | shortWeekday => some (nameAt weekdayNames m.date.weekday true)
  | longWeekday => some (nameAt weekdayNames m.date.weekday false)
  | lowerHalf => some (if m.isAfternoon then "pm".toList else "am".toList)
  | upperHalf => some (if m.isAfternoon then "PM".toList else "AM".toList)
  | fraction => some (shortFraction m)
  | dottedFraction groups => some ('.' :: fractionDigits groups m)
  | plainFraction groups => some (fractionDigits groups m)
  | zoneName => some "+00:00".toList
  | offset => some "+0000".toList
  | offsetColon => some "+00:00".toList
  | offsetSeconds => some "+00:00:00".toList
  | offsetHours => some "+00".toList
  | permissiveOffset => none
  | complete => some (completeChars m)

def Item.chars? (item : Item) (m : Moment) : Option (List Char) :=
  match item with
  | literal text => some text
  | numeric field pad => some (field.chars pad m)
  | fixed field => field.chars? m
  | malformed => none

/-- The moment written after a pattern, if all items of the pattern can be written. -/
def format? (pattern : String) (m : Moment) : Option String := do
  let parts ← (Item.parse pattern.toList).mapM (Item.chars? · m)
  return String.ofList parts.flatten

end StatusBar.Clock
