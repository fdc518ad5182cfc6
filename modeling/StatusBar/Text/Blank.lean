/-!
# Blank characters and trimming

A character is *blank* when Unicode gives it the property `White_Space`. The set is fixed: it has
twenty-five members, and this module lists all of them. Trimming, and the question whether a text
is blank altogether, use this set everywhere in the library.
-/

namespace StatusBar.Text

/-- Whether Unicode gives `c` the property `White_Space`. -/
def isBlank (c : Char) : Bool :=
  let n := c.toNat
  (9 ≤ n && n ≤ 13) || n == 0x20 || n == 0x85 || n == 0xA0 || n == 0x1680
    || (0x2000 ≤ n && n ≤ 0x200A) || n == 0x2028 || n == 0x2029 || n == 0x202F || n == 0x205F
    || n == 0x3000

/-! ### On lists of characters -/

/-- The characters from the first one that is not blank. -/
def dropBlanks (cs : List Char) : List Char := cs.dropWhile isBlank

/-- The characters up to the last one that is not blank. -/
def dropTrailingBlanks (cs : List Char) : List Char := (dropBlanks cs.reverse).reverse

/-- The characters between the first and the last one that is not blank. -/
def trimChars (cs : List Char) : List Char := dropTrailingBlanks (dropBlanks cs)

/-! ### On strings -/

/-- The text without blanks at either end. -/
def trim (s : String) : String := String.ofList (trimChars s.toList)

/-- The text without blanks at its start. -/
def trimStart (s : String) : String := String.ofList (dropBlanks s.toList)

/-- Whether the text has nothing but blanks; the empty text counts. -/
def allBlank (s : String) : Bool := s.toList.all isBlank

def spaces (n : Nat) : String := "".pushn ' ' n

@[simp] theorem toList_spaces (n : Nat) : (spaces n).toList = List.replicate n ' ' := by
  induction n with
  | zero => rfl
  | succ n ih =>
    have hpush : spaces (n + 1) = (spaces n).push ' ' := rfl
    rw [hpush, String.toList_push, ih, List.replicate_succ']

end StatusBar.Text
