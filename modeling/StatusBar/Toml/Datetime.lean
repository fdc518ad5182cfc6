import StatusBar.Clock.Calendar

/-!
# Dates and times in a configuration

A datetime has a date, a time of day or both, and with both it may have an offset from universal
time. It is written in one way only: a `T` stands between date and time, `Z` is in upper case, and
a fraction of a second has no zeros at its end. Texts that are read are more than those that are
written; see `Toml.Datetime.Reader`.
-/

namespace StatusBar.Toml

open Clock (Date)

/-- A time of day. The seconds may be left out, and so may their fraction. -/
structure TimeOfDay where
  hour : Nat
  minute : Nat
  second : Option Nat
  nanosecond : Option Nat
deriving Repr, DecidableEq

/-- How far a clock is from universal time. -/
inductive Offset where
  | universal
  /-- Minutes ahead of universal time. -/
  | ahead (minutes : Int)
deriving Repr, DecidableEq

/-- A date, a time, or both. -/
structure Datetime where
  date : Option Date
  time : Option TimeOfDay
  offset : Option Offset
deriving Repr, DecidableEq

/-! ### Writing -/

/-- `n` with zeros in front of it up to `width` digits. -/
def zeroPadded (width n : Nat) : List Char :=
  let digits := Nat.toDigits 10 n
  List.replicate (width - digits.length) '0' ++ digits

/-- The characters of a date: `yyyy-mm-dd`. -/
def dateChars (d : Date) : List Char :=
  zeroPadded 4 d.year ++ '-' :: zeroPadded 2 d.month ++ '-' :: zeroPadded 2 d.day

/-- The digits of a fraction, without zeros at the end but with at least one digit. -/
def fractionChars (nanosecond : Nat) : List Char :=
  match ((zeroPadded 9 nanosecond).reverse.dropWhile (· == '0')).reverse with
  | [] => ['0']
  | cs => cs

/-- The characters of a time of day: `hh:mm`, and as much of `:ss.fff` as there is. -/
def TimeOfDay.chars (t : TimeOfDay) : List Char :=
  zeroPadded 2 t.hour ++ ':' :: zeroPadded 2 t.minute
    ++ (t.second.map fun s => ':' :: zeroPadded 2 s).getD []
    ++ (t.nanosecond.map fun n => '.' :: fractionChars n).getD []

/-- The characters of an offset: `Z` or `±hh:mm`. -/
def Offset.chars : Offset → List Char
  | universal => ['Z']
  | ahead minutes =>
    let n := minutes.natAbs
    (if minutes < 0 then '-' else '+') :: zeroPadded 2 (n / 60) ++ ':' :: zeroPadded 2 (n % 60)

/-- The one written form of a datetime. -/
def Datetime.text (d : Datetime) : String :=
  let date := (d.date.map dateChars).getD []
  let time := (d.time.map TimeOfDay.chars).getD []
  let separator := if d.date.isSome && d.time.isSome then ['T'] else []
  String.ofList (date ++ separator ++ time ++ (d.offset.map Offset.chars).getD [])

end StatusBar.Toml
