import StatusBar.Text.Blank

/-!
# Colours

A colour has four channels of eight bits. Its written form is `#rrggbb` in lower case, followed by
the alpha channel when that is not `ff`. Reading is more generous: blanks around the text are
ignored, any number of `#` may lead, both cases count, and the three-digit form doubles each digit.
-/

namespace StatusBar

/-- A colour with red, green, blue and alpha channel. -/
structure Color where
  red : UInt8
  green : UInt8
  blue : UInt8
  alpha : UInt8 := 0xff
deriving Repr, DecidableEq, Inhabited

namespace Color

/-- The light text colour a bar falls back to. -/
def white : Color := ⟨0xcd, 0xd6, 0xf4, 0xff⟩

/-- The dark background a bar falls back to. -/
def dark : Color := ⟨0x1e, 0x1e, 0x2e, 0xff⟩

/-- The line colour a bar falls back to. -/
def purple : Color := ⟨0xcb, 0xa6, 0xf7, 0xff⟩

/-! ### Hexadecimal digits -/

/-- The value of a hexadecimal digit of either case. -/
def digit? (c : Char) : Option Nat :=
  if '0' ≤ c ∧ c ≤ '9' then some (c.toNat - '0'.toNat)
  else if 'a' ≤ c ∧ c ≤ 'f' then some (c.toNat - 'a'.toNat + 10)
  else if 'A' ≤ c ∧ c ≤ 'F' then some (c.toNat - 'A'.toNat + 10)
  else none

/-- The channel with the digits `high` and `low`. -/
def channel (high low : Nat) : UInt8 := (16 * high + low).toUInt8

/-- The two lower case digits of a channel. -/
def digits (x : UInt8) : List Char :=
  [Nat.digitChar (x.toNat / 16), Nat.digitChar (x.toNat % 16)]

/-! ### Reading and writing -/

/-- The colour with the given three, six or eight digits. -/
def ofDigits? : List Nat → Option Color
  | [r, g, b] => some ⟨channel r r, channel g g, channel b b, 0xff⟩
  | [r, r', g, g', b, b'] => some ⟨channel r r', channel g g', channel b b', 0xff⟩
  | [r, r', g, g', b, b', a, a'] =>
    some ⟨channel r r', channel g g', channel b b', channel a a'⟩
  | _ => none

/-- What is left of a colour's text when blanks at its ends and all leading `#` are taken away. -/
def significant (s : String) : List Char :=
  (Text.trimChars s.toList).dropWhile (· == '#')

def ofHex? (s : String) : Option Color := do
  ofDigits? (← (significant s).mapM digit?)

/-- The characters of a colour's written form. -/
def chars (c : Color) : List Char :=
  '#' :: (digits c.red ++ digits c.green ++ digits c.blue
    ++ if c.alpha = 0xff then [] else digits c.alpha)

/-- The written form of a colour. -/
def text (c : Color) : String := String.ofList c.chars

/-- What is said of a text that is no colour. -/
def refusal (s : String) : String := s!"'{s}' is not a hex color"

end Color

end StatusBar
