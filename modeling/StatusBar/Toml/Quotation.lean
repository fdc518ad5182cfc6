import StatusBar.Toml.Word

/-!
# Quoted text in a configuration

There are four kinds of quotation: in double quotes with escapes or in single quotes without, on
one line or over several in triple quotes. Each reader starts behind the opening quotes, and
returns the text together with what follows the closing ones.

No control character but a tab may stand in quotes. In the kinds of several lines line breaks may,
and one directly behind the opening quotes does not count.
-/

namespace StatusBar.Toml

/-- Whether `c` may stand in a quotation, or a comment, of one line. -/
def isPlain (c : Char) : Bool :=
  c == '\t' || (0x20 ≤ c.toNat && c.toNat != 0x7F)

/-- The rest of the input behind a line break. -/
def lineBreak? : List Char → Option (List Char)
  | '\n' :: rest => some rest
  | '\r' :: '\n' :: rest => some rest
  | _ => none

/-- The character with the number written by hexadecimal digits, unless it is half of a surrogate
pair or too large. -/
def charOfHex? (digits : List Char) : Option Char :=
  if digits.all isHexDigit then
    let n := ofDigits 16 digits
    if n.isValidChar then some (Char.ofNat n) else none
  else none

/-- The character an escape of one letter stands for. -/
def letterEscape? : Char → Option Char
  | 'b' => some '\x08'
  | 't' => some '\t'
  | 'n' => some '\n'
  | 'f' => some '\x0c'
  | 'r' => some '\r'
  | 'e' => some '\x1b'
  | '"' => some '"'
  | '\\' => some '\\'
  | _ => none

/-- The character an escape stands for, read behind the backslash. -/
def escape? : List Char → Option (Char × List Char)
  | 'x' :: a :: b :: rest => do some (← charOfHex? [a, b], rest)
  | 'u' :: a :: b :: c :: d :: rest => do some (← charOfHex? [a, b, c, d], rest)
  | 'U' :: a :: b :: c :: d :: e :: f :: g :: h :: rest => do
    some (← charOfHex? [a, b, c, d, e, f, g, h], rest)
  | c :: rest => do some (← letterEscape? c, rest)
  | [] => none

theorem length_of_escape?_eq_some {cs rest : List Char} {c : Char}
    (h : escape? cs = some (c, rest)) : rest.length < cs.length := by
  unfold escape? at h
  split at h
  all_goals
    first
    | (obtain ⟨_, _, h⟩ := Option.bind_eq_some_iff.1 h
       simp only [Option.some.injEq, Prod.mk.injEq] at h
       obtain ⟨_, rfl⟩ := h
       simp only [List.length_cons]
       omega)
    | simp at h

/-- Double quotes, one line. -/
def basic? : List Char → Option (List Char × List Char)
  | [] => none
  | '"' :: rest => some ([], rest)
  | '\\' :: rest =>
    match _ : escape? rest with
    | some (c, rest) => do
      let (text, rest) ← basic? rest
      some (c :: text, rest)
    | none => none
  | c :: rest =>
    if isPlain c then do
      let (text, rest) ← basic? rest
      some (c :: text, rest)
    else none
termination_by cs => cs.length
decreasing_by
  · have := length_of_escape?_eq_some ‹_›
    simp only [List.length_cons]
    omega
  · simp

/-- Single quotes, one line. -/
def literal? : List Char → Option (List Char × List Char)
  | [] => none
  | '\'' :: rest => some ([], rest)
  | c :: rest =>
    if isPlain c then do
      let (text, rest) ← literal? rest
      some (c :: text, rest)
    else none

/-! ### Several lines -/

/-- The number of leading characters `q`, and the rest. -/
def countQuotes (q : Char) : List Char → Nat × List Char
  | [] => (0, [])
  | c :: rest =>
    if c = q then
      let (n, rest) := countQuotes q rest
      (n + 1, rest)
    else (0, c :: rest)

/-- Closing triple quotes, and one or two quotes of text in front of them. -/
def closing? (q : Char) (cs : List Char) : Option (List Char × List Char) :=
  let (n, rest) := countQuotes q cs
  if n < 3 then none
  else if n ≤ 5 then some (List.replicate (n - 3) q, rest)
  else some ([q, q], List.replicate (n - 5) q ++ rest)

/-- Drops spaces, tabs and line breaks. -/
def dropGap : List Char → List Char
  | ' ' :: rest => dropGap rest
  | '\t' :: rest => dropGap rest
  | '\n' :: rest => dropGap rest
  | '\r' :: '\n' :: rest => dropGap rest
  | cs => cs

/-- What follows a backslash at the end of a line: spaces may stand before the line break, and all
gaps behind it are dropped. -/
def lineEnd? (cs : List Char) : Option (List Char) :=
  (lineBreak? (cs.dropWhile fun c => c == ' ' || c == '\t')).map dropGap

/-- Double quotes, several lines. The fuel bounds the number of characters read. -/
def multilineBasic? : (fuel : Nat) → List Char → Option (List Char × List Char)
  | 0, _ => none
  | fuel + 1, cs =>
    match closing? '"' cs with
    | some result => some result
    | none =>
      match cs with
      | [] => none
      | '\\' :: rest =>
        match lineEnd? rest with
        | some rest => multilineBasic? fuel rest
        | none => do
          let (c, rest) ← escape? rest
          let (text, rest) ← multilineBasic? fuel rest
          some (c :: text, rest)
      | '\r' :: '\n' :: rest => do
        let (text, rest) ← multilineBasic? fuel rest
        some ('\r' :: '\n' :: text, rest)
      | c :: rest =>
        if isPlain c || c == '\n' then do
          let (text, rest) ← multilineBasic? fuel rest
          some (c :: text, rest)
        else none

/-- Single quotes, several lines. The fuel bounds the number of characters read. -/
def multilineLiteral? : (fuel : Nat) → List Char → Option (List Char × List Char)
  | 0, _ => none
  | fuel + 1, cs =>
    match closing? '\'' cs with
    | some result => some result
    | none =>
      match cs with
      | [] => none
      | '\r' :: '\n' :: rest => do
        let (text, rest) ← multilineLiteral? fuel rest
        some ('\r' :: '\n' :: text, rest)
      | c :: rest =>
        if isPlain c || c == '\n' then do
          let (text, rest) ← multilineLiteral? fuel rest
          some (c :: text, rest)
        else none

/-- Drops a line break at the very start. -/
def dropFirstBreak (cs : List Char) : List Char := (lineBreak? cs).getD cs

/-- Reads a quotation of any kind, quotes included. -/
def quotation? : List Char → Option (List Char × List Char)
  | '"' :: '"' :: '"' :: rest => multilineBasic? (rest.length + 1) (dropFirstBreak rest)
  | '\'' :: '\'' :: '\'' :: rest => multilineLiteral? (rest.length + 1) (dropFirstBreak rest)
  | '"' :: rest => basic? rest
  | '\'' :: rest => literal? rest
  | _ => none

/-- Reads a quotation of one line, quotes included. -/
def lineQuotation? : List Char → Option (List Char × List Char)
  | '"' :: rest => basic? rest
  | '\'' :: rest => literal? rest
  | _ => none

end StatusBar.Toml
