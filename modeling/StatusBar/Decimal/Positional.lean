import StatusBar.Decimal.Shortest

/-!
# Floating point numbers in positional notation

A finite number is written with the fewest digits that read back as it, never with an exponent,
and always with a decimal point. Infinities and not-a-number have words of their own.
-/

namespace StatusBar.Decimal

/-- What the bits of a binary64 number stand for. -/
inductive Reading where
  | notANumber
  | infinite (negative : Bool)
  | zero (negative : Bool)
  | finite (negative : Bool) (magnitude : Binary)
deriving Repr, DecidableEq

/-- Reads a sign bit, eleven bits of exponent and fifty-two of mantissa. -/
def Reading.ofBits (bits : UInt64) : Reading :=
  let n := bits.toNat
  let negative := 0x8000000000000000 ≤ n
  let exponent : Nat := n / 0x10000000000000 % 0x800
  let fraction := n % 0x10000000000000
  if exponent = 2047 then
    if fraction = 0 then .infinite negative else .notANumber
  else if exponent = 0 then
    if fraction = 0 then .zero negative else .finite negative ⟨fraction, -1074, false⟩
  else
    .finite negative
      ⟨0x10000000000000 + fraction, (exponent : Int) - 1075, fraction == 0 && 1 < exponent⟩

/-- A decimal in positional notation, with at least one digit on either side of the point. -/
def positional (d : Decimal) : String :=
  let digits := Nat.toDigits 10 d.digits
  if 0 ≤ d.exponent then
    String.ofList (digits ++ List.replicate d.exponent.toNat '0') ++ ".0"
  else
    let places := (-d.exponent).toNat
    let padded := List.replicate (places + 1 - digits.length) '0' ++ digits
    let whole := padded.take (padded.length - places)
    let fraction := padded.drop (padded.length - places)
    String.ofList (whole ++ '.' :: fraction)

/-- Drops the zeros at the end of the digits. -/
def normal : (fuel : Nat) → Decimal → Decimal
  | 0, d => d
  | fuel + 1, d =>
    if d.digits != 0 && d.digits % 10 == 0 then
      normal fuel ⟨d.digits / 10, d.exponent + 1⟩
    else d

/-- The text of the number with these bits. -/
def textOfBits (bits : UInt64) : String :=
  let signed (negative : Bool) (s : String) := if negative then "-" ++ s else s
  match Reading.ofBits bits with
  | .notANumber => "NaN"
  | .infinite negative => signed negative "inf"
  | .zero negative => signed negative "0.0"
  | .finite negative x => signed negative ((shortest x).normal 20).positional

end StatusBar.Decimal
