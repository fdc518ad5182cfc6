/-!
# The shortest decimal of a binary number

A finite binary64 number is `m · 2^q`. The real numbers nearer to it than to its neighbours form
an interval around it, and every decimal in that interval reads back as the number. `shortest`
finds the decimal in the interval that has the fewest digits, and among those the nearest, or the
upper one of two equally near.

It tries the grids of one digit, two digits and so on. On each grid only the two points on either
side of the number matter: if any point of the grid lies in the interval, one of these two does.
-/

namespace StatusBar

/-- A positive binary number `mantissa · 2^exponent`, and whether its lower neighbour is only
half as far away as the upper one. -/
structure Binary where
  mantissa : Nat
  exponent : Int
  closeBelow : Bool
deriving Repr, DecidableEq

/-- A positive decimal number `digits · 10^exponent`. -/
structure Decimal where
  digits : Nat
  exponent : Int
deriving Repr, DecidableEq

namespace Decimal

/-- `n · b^e` as a fraction: the numerator and the denominator. -/
def scaled (n b : Nat) (e : Int) : Nat × Nat :=
  if 0 ≤ e then (n * b.pow e.toNat, 1) else (n, b.pow (-e).toNat)

/-- Whether the decimal lies in the interval of the numbers that round to `x`. The ends belong to
the interval when the mantissa is even. -/
def rounds (x : Binary) (d : Decimal) : Bool :=
  let (dn, dd) := scaled d.digits 10 d.exponent
  -- the ends of the interval, in quarters of the last binary place
  let (ln, ld) := scaled (4 * x.mantissa - (if x.closeBelow then 1 else 2)) 2 (x.exponent - 2)
  let (un, ud) := scaled (4 * x.mantissa + 2) 2 (x.exponent - 2)
  if x.mantissa % 2 = 0 then ln * dd ≤ dn * ld && dn * ud ≤ un * dd
  else ln * dd < dn * ld && dn * ud < un * dd

/-- The distance of the decimal from `x`, as a numerator over a denominator that all decimals of
one exponent share. -/
def distance (x : Binary) (d : Decimal) : Nat :=
  let (dn, dd) := scaled d.digits 10 d.exponent
  let (xn, xd) := scaled x.mantissa 2 x.exponent
  let a := dn * xd
  let b := xn * dd
  if a ≤ b then b - a else a - b

/-- The point below `x` on the grid of the multiples of `10^e`, and the next one. -/
def neighbours (x : Binary) (e : Int) : Decimal × Decimal :=
  let (xn, xd) := scaled x.mantissa 2 x.exponent
  let (gn, gd) := scaled 1 10 e
  let below := xn * gd / (xd * gn)
  (⟨below, e⟩, ⟨below + 1, e⟩)

/-- The nearer of the two grid points around `x` that round to it; of two equally near ones the
upper. -/
def onGrid? (x : Binary) (e : Int) : Option Decimal :=
  let (lo, hi) := neighbours x e
  match lo.digits != 0 && rounds x lo, rounds x hi with
  | false, false => none
  | true, false => some lo
  | false, true => some hi
  | true, true =>
    some (if distance x lo < distance x hi then lo else hi)

/-- The largest `e` with `10^e ≤ x`, found by trying `fuel` exponents down from `e`. -/
def magnitude (x : Binary) : (fuel : Nat) → Int → Int
  | 0, e => e
  | fuel + 1, e =>
    let (xn, xd) := scaled x.mantissa 2 x.exponent
    let (gn, gd) := scaled 1 10 e
    if gn * xd ≤ xn * gd then e else magnitude x fuel (e - 1)

/-- Tries the grids of `10^e`, `10^(e-1)`, and so on. -/
def firstGrid (x : Binary) : (fuel : Nat) → Int → Option Decimal
  | 0, _ => none
  | fuel + 1, e =>
    match onGrid? x e with
    | some d => some d
    | none => firstGrid x fuel (e - 1)

/-- The decimal of fewest digits that reads back as `x`. Seventeen digits always suffice. -/
def shortest (x : Binary) : Decimal :=
  let e := magnitude x 640 309
  (firstGrid x 18 e).getD ⟨x.mantissa, 0⟩

end Decimal

end StatusBar
