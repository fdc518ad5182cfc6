import StatusBar.Toml.Document
import StatusBar.Toml.Quotation
import StatusBar.Toml.Reserved

/-!
# Configuration text

Reads the text of a configuration: line by line into statements, and the statements into a table.
The language is TOML 1.1; a text that is not in it is refused as a whole, without a reason.

Readers take the input as a list of characters and return what they read together with the rest.
-/

namespace StatusBar.Toml

/-! ### Between the values -/

/-- Drops spaces and tabs. -/
def dropSpaces (cs : List Char) : List Char := cs.dropWhile fun c => c == ' ' || c == '\t'

/-- What follows the text of a comment: the end of its line is not part of it. -/
def dropComment (cs : List Char) : List Char := cs.dropWhile isPlain

theorem length_dropComment_le (cs : List Char) : (dropComment cs).length ≤ cs.length :=
  (List.dropWhile_sublist _).length_le

/-- Drops spaces, line breaks and comments. -/
def dropTrivia : List Char → List Char
  | [] => []
  | '\r' :: '\n' :: rest => dropTrivia rest
  | '#' :: rest => dropTrivia (dropComment rest)
  | c :: rest =>
    if c == ' ' || c == '\t' || c == '\n' then dropTrivia rest else c :: rest
termination_by cs => cs.length
decreasing_by
  · simp only [List.length_cons]
    omega
  · have := length_dropComment_le rest
    simp only [List.length_cons]
    omega
  · simp

/-- The end of a line: spaces and a comment may stand in front of it, and the end of the input
will do. -/
def lineRest? (cs : List Char) : Option (List Char) :=
  let rest := match dropSpaces cs with
    | '#' :: rest => dropComment rest
    | rest => rest
  match rest with
  | [] => some []
  | rest => lineBreak? rest

/-! ### Keys -/

/-- Whether `c` may stand in a key without quotes. -/
def isBare (c : Char) : Bool :=
  c.isAlpha || c.isDigit || c == '-' || c == '_'

/-- One part of a key. -/
def simpleKey? (cs : List Char) : Option (String × List Char) :=
  match lineQuotation? cs with
  | some (text, rest) => some (String.ofList text, rest)
  | none =>
    let word := cs.takeWhile isBare
    if word.isEmpty then none else some (String.ofList word, cs.dropWhile isBare)

/-- The parts of a key, with dots between them. Spaces may surround every part. -/
def keyParts? (cs : List Char) : Option (List String × List Char) :=
  match simpleKey? (dropSpaces cs) with
  | none => none
  | some (part, rest) =>
    match dropSpaces rest with
    | '.' :: after =>
      if after.length < cs.length then do
        let (parts, rest) ← keyParts? after
        some (part :: parts, rest)
      else none
    | rest => some ([part], rest)
termination_by cs.length

/-- How deep arrays and tables may nest in a value, and how many parts a key may have. -/
def deepest : Nat := 80

/-- A key that does not lead too deep. -/
def key? (cs : List Char) : Option (List String × List Char) := do
  let (parts, rest) ← keyParts? cs
  if deepest < parts.length then none else some (parts, rest)

/-! ### Values -/

/-- Items with commas between them up to `close`, one comma more allowed. Line breaks and comments
may stand anywhere between them. -/
def items? (item : List Char → Option (α × List Char)) (close : Char) (cs : List Char) :
    Option (List α × List Char) :=
  match dropTrivia cs with
  | [] => none
  | c :: rest =>
    if c = close then some ([], rest)
    else
      match item (c :: rest) with
      | none => none
      | some (x, rest) =>
        match dropTrivia rest with
        | [] => none
        | d :: rest =>
          if d = close then some ([x], rest)
          else if d = ',' ∧ rest.length < cs.length then do
            let (xs, rest) ← items? item close rest
            some (x :: xs, rest)
          else none
termination_by cs.length

/-- A key, an equals sign and a value. What may surround the equals sign is dropped by `dropGap`. -/
def pair? (dropGap : List Char → List Char) (value : List Char → Option (Value × List Char))
    (cs : List Char) : Option ((List String × Value) × List Char) := do
  let (key, rest) ← key? cs
  match dropGap rest with
  | '=' :: rest =>
    let (v, rest) ← value (dropGap rest)
    some ((key, v), rest)
  | _ => none

/-- Whether `c` may stand in a word without quotes. -/
def isWordChar (c : Char) : Bool :=
  isBare c || c == '+' || c == '.' || c == ':'

/-- A value without quotes. A date takes a time behind a single space along. -/
def word? (cs : List Char) : Option (Value × List Char) := do
  let word := cs.takeWhile isWordChar
  let rest := cs.dropWhile isWordChar
  match (Datetime.ofChars? word).any Datetime.isDate, rest with
  | true, ' ' :: c :: rest =>
    if c.isDigit then
      let time := (c :: rest).takeWhile isWordChar
      some (← Value.ofWord? (word ++ ' ' :: time), (c :: rest).dropWhile isWordChar)
    else some (← Value.ofWord? word, ' ' :: c :: rest)
  | _, rest => some (← Value.ofWord? word, rest)

/-- A value in which arrays and tables nest at most `depth` times. -/
def value? : (depth : Nat) → List Char → Option (Value × List Char)
  | 0, cs =>
    match quotation? cs with
    | some (text, rest) => some (.string (String.ofList text), rest)
    | none => word? cs
  | depth + 1, cs =>
    match cs with
    | '[' :: rest => do
      let (elements, rest) ← items? (value? depth) ']' rest
      some (.array elements, rest)
    | '\x7b' :: rest => do
      let (pairs, rest) ← items? (pair? dropTrivia (value? depth)) '\x7d' rest
      some (.table (← Table.ofPairs? pairs), rest)
    | _ =>
      match quotation? cs with
      | some (text, rest) => some (.string (String.ofList text), rest)
      | none => word? cs

/-! ### Statements -/

/-- The statement that begins at `cs`, and the rest of its line. -/
def statement? : List Char → Option (Statement × List Char)
  | '[' :: '[' :: rest => do
    let (path, rest) ← key? rest
    match rest with
    | ']' :: ']' :: rest => some (.arrayHeader path, rest)
    | _ => none
  | '[' :: rest => do
    let (path, rest) ← key? rest
    match rest with
    | ']' :: rest => some (.header path, rest)
    | _ => none
  | cs => do
    let ((key, value), rest) ← pair? dropSpaces (value? deepest) cs
    some (.assign key value, rest)

/-- All statements of a text. -/
def statements? (cs : List Char) : Option (List Statement) :=
  match dropTrivia cs with
  | [] => some []
  | start =>
    match statement? start with
    | none => none
    | some (statement, rest) =>
      match lineRest? rest with
      | none => none
      | some rest =>
        if rest.length < cs.length then (statement :: ·) <$> statements? rest else none
termination_by cs.length

/-- The datetime whose text is the value at the reserved key of a table. Its other entries are
ignored. -/
def spelled (value : Value) (_behind : Table) : Except Unit Datetime :=
  match value with
  | .string text => (Datetime.ofChars? text.toList).elim (.error ()) .ok
  | _ => .error ()

/-- Reads the text of a configuration. A byte order mark at its start is ignored. Except for the
root, a table whose first key is the reserved one has to spell a datetime. -/
def read? (text : String) : Option Table := do
  let cs := match text.toList with
    | '\uFEFF' :: rest => rest
    | cs => cs
  let root ← Table.ofStatements? (← statements? cs)
  (resolveEntries spelled (fun _ e => e) root).toOption

end StatusBar.Toml
