import StatusBar.Color
import StatusBar.Decimal.Positional
import StatusBar.Text.Quoted
import StatusBar.Toml.Datetime.Reader
import StatusBar.Toml.Reserved

/-!
# Decoding configuration values

A decoder turns a value into what the program wants, or says why the value does not fit: it has the
wrong type, its number is out of range, or its text is no colour. A datetime counts as the string
of its text everywhere.

Values are taken as they are, so a table with the reserved key is a table for all decoders but
`any`, which takes it for the datetime that it spells.
-/

namespace StatusBar

open Toml (Value)

/-- Why a value does not fit. -/
inductive Mismatch where
  /-- The value has another type than the expected one. -/
  | wrongType (found : Value) (expected : String)
  /-- The integer does not fit into the expected type. -/
  | outOfRange (number : Int) (expected : String)
  /-- The list is longer than what is to be read from it. -/
  | tooLong (length : Nat)
  /-- The table has more keys than the reserved one. -/
  | tooManyKeys (count : Nat)
  /-- The text is no datetime. -/
  | notADatetime (fault : Toml.Datetime.Fault)
  /-- The text is no colour. -/
  | notAColor (text : String)
  /-- What is at a key of the value does not fit. -/
  | inside (key : String) (cause : Mismatch)
deriving Inhabited

/-- What a value is called in a message. -/
def Toml.Value.describe : Value → String
  | .string s => "string " ++ Text.Quoted.quote s
  | .integer n => s!"integer `{n}`"
  | .float bits => s!"floating point `{Decimal.textOfBits bits}`"
  | .boolean b => s!"boolean `{b}`"
  | .datetime d => "string " ++ Text.Quoted.quote d.text
  | .array _ => "sequence"
  | .table _ => "map"

namespace Mismatch

/-- The keys that lead to what does not fit. -/
def path : Mismatch → List String
  | inside key cause => key :: cause.path
  | _ => []

/-- What is wrong there; the words fill a line. -/
def reason : Mismatch → String
  | wrongType found expected => s!"invalid type: {found.describe}, expected {expected}\n"
  | outOfRange number expected => s!"invalid value: integer `{number}`, expected {expected}\n"
  | tooLong length => s!"invalid length {length}, expected fewer elements in array\n"
  | tooManyKeys count => s!"invalid length {count}, expected fewer elements in map\n"
  | notADatetime fault => fault.message ++ "\n"
  | notAColor text => Color.refusal text ++ "\n"
  | inside _ cause => cause.reason

/-- The words for a mismatch. The keys have a line of their own, if there are any. -/
def message (m : Mismatch) : String :=
  match m.path with
  | [] => m.reason
  | path => m.reason ++ "in `" ++ ".".intercalate path ++ "`\n"

end Mismatch

/-- A way to read a value. -/
abbrev Decoder (α : Type) := Value → Except Mismatch α

namespace Decoder

/-- A string, or the text of a datetime. What is wanted is called `expected`. -/
def textCalled (expected : String) : Decoder String
  | .string s => .ok s
  | .datetime d => .ok d.text
  | v => .error (.wrongType v expected)

/-- A string, or the text of a datetime. -/
def string : Decoder String := textCalled "a string"

/-- The datetime that a table spells with the value at its reserved key. There must be no entries
behind that key. -/
def spelled (v : Value) (behind : Toml.Table) : Except Mismatch Toml.Datetime := do
  let text ← (textCalled "string containing a datetime" v).mapError (.inside Toml.reservedKey)
  let d ← (Toml.Datetime.read text.toList).mapError (.inside Toml.reservedKey ∘ .notADatetime)
  if behind.isEmpty then .ok d else .error (.tooManyKeys (behind.length + 1))

/-- Any value. Its tables count as the datetimes that they spell. -/
def any : Decoder Value := Value.resolve spelled .inside

def boolean : Decoder Bool
  | .boolean b => .ok b
  | v => .error (.wrongType v "a boolean")

/-- An integer from `low` up to but without `high`; the range is called `expected`. -/
def integerIn (low high : Int) (expected : String) : Decoder Int
  | .integer n => if low ≤ n ∧ n < high then .ok n else .error (.outOfRange n expected)
  | v => .error (.wrongType v expected)

def naturalBelow (high : Nat) (expected : String) : Decoder Nat := fun v =>
  Int.toNat <$> integerIn 0 high expected v

def u32 : Decoder Nat := naturalBelow UInt32.size "u32"

def u64 : Decoder Nat := naturalBelow UInt64.size "u64"

/-- A size: a natural number of 64 bits. -/
def usize : Decoder Nat := naturalBelow UInt64.size "usize"

def i32 : Decoder Int := integerIn (-0x80000000) 0x80000000 "i32"

/-- A colour in its written form. -/
def color : Decoder Color := fun v => do
  let s ← string v
  match Color.ofHex? s with
  | some c => .ok c
  | none => .error (.notAColor s)

/-- A value that may be absent, and is not. -/
def optional (d : Decoder α) : Decoder (Option α) := fun v => some <$> d v

/-- A list whose elements are read in order; the first that does not fit is reported. -/
def list (d : Decoder α) : Decoder (List α)
  | .array vs => vs.mapM d
  | v => .error (.wrongType v "a sequence")

def strings : Decoder (List String) := list string

end Decoder

end StatusBar
