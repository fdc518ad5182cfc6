import StatusBar.Toml.Datetime.Reader
import StatusBar.Toml.Value

/-!
# Unquoted values

Booleans, numbers and datetimes are written without quotes. `Value.ofWord?` decides what a whole
word stands for; a word that is none of these is refused.

Integers have 64 bits. A float that is too large for binary64 is refused, one that is too small
becomes zero.
-/

namespace StatusBar.Toml

/-! ### Digits -/

/-- Whether `c` is a hexadecimal digit of either case. -/
def isHexDigit (c : Char) : Bool :=
  c.isDigit || ('a' ≤ c && c ≤ 'f') || ('A' ≤ c && c ≤ 'F')

/-- The value of a digit in any base up to sixteen. -/
def digitValue (c : Char) : Nat :=
  if c.isDigit then c.toNat - '0'.toNat
  else if 'a' ≤ c then c.toNat - 'a'.toNat + 10
  else c.toNat - 'A'.toNat + 10

/-- The number with the given digits. -/
def ofDigits (base : Nat) (digits : List Char) : Nat :=
  digits.foldl (fun n c => base * n + digitValue c) 0

/-- The digits of a run in which single underscores may stand between two digits. -/
def digits? (isDigit : Char → Bool) : List Char → Option (List Char)
  | [] => none
  | [c] => if isDigit c then some [c] else none
  | c :: '_' :: rest => if isDigit c then (c :: ·) <$> digits? isDigit rest else none
  | c :: rest => if isDigit c then (c :: ·) <$> digits? isDigit rest else none

/-- Decimal digits that do not begin with a zero, unless there is no other. -/
def plainDigits? (cs : List Char) : Option (List Char) :=
  match digits? Char.isDigit cs with
  | some ['0'] => some ['0']
  | some ('0' :: _) => none
  | other => other

/-- A leading sign, `true` for minus, and the rest. -/
def signed : List Char → Bool × List Char
  | '-' :: rest => (true, rest)
  | '+' :: rest => (false, rest)
  | cs => (false, cs)

/-! ### Integers -/

/-- The integer, if it fits into 64 bits. -/
def integer? (n : Int) : Option Value :=
  if Int64.minValue.toInt ≤ n ∧ n ≤ Int64.maxValue.toInt then some (.integer n) else none

/-- A decimal integer with an optional sign. -/
def decimalInteger? (cs : List Char) : Option Value := do
  let (negative, cs) := signed cs
  let n := ofDigits 10 (← plainDigits? cs)
  integer? (if negative then -(n : Int) else n)

/-- An integer in base 16, 8 or 2, which has no sign. -/
def radixInteger? : List Char → Option Value
  | '0' :: 'x' :: cs => do integer? (ofDigits 16 (← digits? isHexDigit cs))
  | '0' :: 'o' :: cs => do integer? (ofDigits 8 (← digits? (fun c => '0' ≤ c && c ≤ '7') cs))
  | '0' :: 'b' :: cs => do integer? (ofDigits 2 (← digits? (fun c => c == '0' || c == '1') cs))
  | _ => none

/-! ### Floats -/

/-- The bits of binary64 infinity. -/
def infinityBits : UInt64 := 0x7FF0000000000000

/-- The bits of a binary64 not-a-number. -/
def notANumberBits : UInt64 := 0x7FF8000000000000

/-- Sets the sign bit. -/
def withSign (negative : Bool) (bits : UInt64) : UInt64 :=
  if negative then bits ||| 0x8000000000000000 else bits

/-- The binary64 number nearest to `digits · 10^exponent`. Beyond the bounds tested here the number
is certainly infinite or zero. -/
def nearestBits (digits : List Char) (exponent : Int) : UInt64 :=
  let significant := digits.dropWhile (· == '0')
  let scale := exponent + significant.length
  if significant.isEmpty || scale < -400 then 0
  else if 400 < scale then infinityBits
  else (Float.ofScientific (ofDigits 10 significant) (exponent < 0) exponent.natAbs).toBits

/-- The characters before the first one that satisfies `p`, and those behind it if there is one. -/
def breakAt (p : Char → Bool) (cs : List Char) : List Char × Option (List Char) :=
  (cs.takeWhile (!p ·), match cs.dropWhile (!p ·) with | [] => none | _ :: rest => some rest)

/-- A float has a fraction, an exponent or both. -/
def float? (cs : List Char) : Option Value := do
  let (negative, cs) := signed cs
  let (mantissa, exponentPart) := breakAt (fun c => c == 'e' || c == 'E') cs
  let (wholePart, fractionPart) := breakAt (· == '.') mantissa
  if exponentPart.isNone && fractionPart.isNone then none
  else
    let whole ← plainDigits? wholePart
    let fraction ← match fractionPart with
      | none => some []
      | some cs => digits? Char.isDigit cs
    let exponent ← match exponentPart with
      | none => some (0 : Int)
      | some cs => do
        let (negative, cs) := signed cs
        let n := ofDigits 10 (← digits? Char.isDigit cs)
        some (if negative then -(n : Int) else n)
    let bits := nearestBits (whole ++ fraction) (exponent - fraction.length)
    if bits == infinityBits then none else some (.float (withSign negative bits))

/-- `inf` and `nan`, with an optional sign. -/
def specialFloat? (cs : List Char) : Option Value :=
  let (negative, cs) := signed cs
  if cs = "inf".toList then some (.float (withSign negative infinityBits))
  else if cs = "nan".toList then some (.float (withSign negative notANumberBits))
  else none

/-! ### Words -/

/-- What the word `cs` stands for. -/
def Value.ofWord? (cs : List Char) : Option Value :=
  if cs = "true".toList then some (.boolean true)
  else if cs = "false".toList then some (.boolean false)
  else
    specialFloat? cs <|> radixInteger? cs <|> decimalInteger? cs <|> float? cs
      <|> .datetime <$> Datetime.ofChars? cs

end StatusBar.Toml
