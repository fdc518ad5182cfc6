import StatusBar.Text.Pictureless

/-!
# Quoted text

A text quoted for a message stands between double quotes. Inside them a double quote and a
backslash follow a backslash, tab, line feed, carriage return and NUL have their short escapes,
and a character without a picture of its own is spelled by its number in hexadecimal.
-/

namespace StatusBar.Text.Quoted

/-- The digits of `n` in lower case hexadecimal. -/
def hex (n : Nat) : String := String.ofList (Nat.toDigits 16 n)

/-- Whether a quoted text spells `c` by its number. -/
def isSpelled (c : Char) : Bool :=
  let n := c.toNat
  n < 0x20 || n == 0x7F || (0x80 ≤ n && Pictureless.mem n)

/-- What a quoted text writes for `c`. -/
def escape (c : Char) : String :=
  match c with
  | '"' => "\\\""
  | '\\' => "\\\\"
  | '\t' => "\\t"
  | '\n' => "\\n"
  | '\r' => "\\r"
  | '\x00' => "\\0"
  | c => if isSpelled c then "\\u\x7b" ++ hex c.toNat ++ "\x7d" else c.toString

/-- The text between double quotes. -/
def quote (s : String) : String :=
  s.foldl (fun out c => out ++ escape c) "\"" ++ "\""

end StatusBar.Text.Quoted
