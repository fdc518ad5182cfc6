/-!
# Text for a terminal

A terminal takes some control characters for commands. In a notice these are spelled by their
numbers in hexadecimal, so that the terminal shows them and does not obey them. Other control
characters, among them the line feed, stay as they are.
-/

namespace StatusBar.Text.Terminal

/-- Whether a terminal obeys `c`, and `c` has one of the numbers of ASCII: bell, backspace, form
feed, escape and delete. -/
def isCommand (c : Char) : Bool :=
  c == '\x07' || c == '\x08' || c == '\x0C' || c == '\x1B' || c == '\x7F'

/-- Whether `c` is a control character with a number beyond ASCII, all of which a terminal obeys. -/
def isHighCommand (c : Char) : Bool := 0x80 ≤ c.toNat && c.toNat ≤ 0x9F

/-- What a terminal is shown for `c`. -/
def escape (c : Char) : String :=
  let digits := String.ofList (Nat.toDigits 16 c.toNat)
  if isCommand c then "\\x" ++ (if c.toNat < 16 then "0" else "") ++ digits
  else if isHighCommand c then "\\u\x7b" ++ digits ++ "\x7d"
  else c.toString

/-- What a terminal is shown for a text. -/
def shown (s : String) : String := String.join (s.toList.map escape)

end StatusBar.Text.Terminal
