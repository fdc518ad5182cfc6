import StatusBar.Markup.Basic
import StatusBar.Proofs.Colors
import StatusBar.Text.Split

/-!
# Reading markup

Whoever shows the markup takes it apart again: tags are told from characters, and every tag has a
meaning. Here is what the tags are (`Tag`), what they are written as (`Tag.body`), and how a text
is taken apart (`read?`). A percent sign begins a tag; a text with one that does not is no markup,
and neither is a text with a tag that means nothing.

Reading and writing are inverse to each other:

    read? cs = some ps ↔ write ps = cs ∧ .char '%' ∉ ps

So whatever is put together from pieces is read as these pieces, and no other way.
-/

namespace StatusBar.Markup

/-- A line along the text. -/
inductive Line where
  | below
  | above
deriving Repr, DecidableEq

def Line.letter : Line → Char
  | below => 'u'
  | above => 'o'

/-- A tag by its meaning. A colour or font that is not given stands for the bar's own. -/
inductive Tag where
  | background (color : Option Color)
  | foreground (color : Option Color)
  | font (index : Option Nat)
  /-- Chooses the colour of a line. -/
  | ink (line : Line) (color : Color)
  /-- Chooses how thick lines are. -/
  | thickness (size : Nat)
  /-- Begins or ends to draw a line. -/
  | draw (line : Line) (on : Bool)
  /-- Leaves out some pixels. -/
  | shift (pixels : Int)
deriving Repr, DecidableEq

/-! ### What stands in a tag -/

/-- What is written for a value that may be missing. -/
def orReset (write : α → List Char) : Option α → List Char
  | none => ['-']
  | some a => write a

/-- Reads what `orReset` writes. -/
def orReset? (read? : List Char → Option α) (cs : List Char) : Option (Option α) :=
  if cs = ['-'] then some none else (read? cs).map some

def color? (cs : List Char) : Option Color :=
  (Color.ofHex? (String.ofList cs)).filter (·.chars = cs)

def number? (cs : List Char) : Option Nat :=
  (some (Nat.ofDigitChars 10 cs 0)).filter (Nat.toDigits 10 · = cs)

/-- What the digits of an integer stand for, behind a minus sign if there is one. -/
def ofSignedDigits : List Char → Int
  | '-' :: digits => -Nat.ofDigitChars 10 digits 0
  | digits => Nat.ofDigitChars 10 digits 0

def integer? (cs : List Char) : Option Int :=
  (some (ofSignedDigits cs)).filter (·.repr.toList = cs)

namespace Tag

/-- What is written between the braces of a tag. -/
def body : Tag → List Char
  | background color => 'B' :: orReset Color.chars color
  | foreground color => 'F' :: orReset Color.chars color
  | font index => 'T' :: orReset (Nat.toDigits 10) index
  | ink line color => line.letter :: color.chars
  | thickness size => 'U' :: Nat.toDigits 10 size
  | draw line true => ['+', line.letter]
  | draw line false => ['-', line.letter]
  | shift pixels => 'O' :: pixels.repr.toList

/-- Reads what stands between the braces of a tag. -/
def read? : List Char → Option Tag
  | 'B' :: cs => (orReset? color? cs).map background
  | 'F' :: cs => (orReset? color? cs).map foreground
  | 'T' :: cs => (orReset? number? cs).map font
  | 'u' :: cs => (color? cs).map (ink .below)
  | 'o' :: cs => (color? cs).map (ink .above)
  | 'U' :: cs => (number? cs).map thickness
  | 'O' :: cs => (integer? cs).map shift
  | ['+', 'u'] => some (draw .below true)
  | ['-', 'u'] => some (draw .below false)
  | ['+', 'o'] => some (draw .above true)
  | ['-', 'o'] => some (draw .above false)
  | _ => none

end Tag

/-- A colour is read from the way it is written, and from no other. -/
theorem color?_eq_some_iff {cs : List Char} {c : Color} : color? cs = some c ↔ c.chars = cs := by
  rw [color?, Option.filter_eq_some_iff, decide_eq_true_iff]
  constructor
  · exact And.right
  · rintro rfl
    exact ⟨c.ofHex?_text, rfl⟩

/-- A number is read from the way it is written, and from no other. -/
theorem number?_eq_some_iff {cs : List Char} {n : Nat} :
    number? cs = some n ↔ Nat.toDigits 10 n = cs := by
  rw [number?, Option.filter_eq_some_iff, decide_eq_true_iff, Option.some_inj]
  constructor
  · exact And.right
  · rintro rfl
    exact ⟨Nat.ofDigitChars_ten_toDigits, rfl⟩

/-- A number does not begin with a minus sign. -/
theorem toDigits_ne_cons_minus (n : Nat) (cs : List Char) : Nat.toDigits 10 n ≠ '-' :: cs := by
  intro h
  have hdigit := Nat.isDigit_of_mem_toDigits (b := 10) (n := n) (c := '-') (by decide) (by decide)
    (by rw [h]; exact List.mem_cons_self)
  exact absurd hdigit (by decide)

/-- The digits of an integer give it back, with its sign. -/
theorem ofSignedDigits_repr (i : Int) : ofSignedDigits i.repr.toList = i := by
  cases i with
  | ofNat n =>
    have hchars : (Int.ofNat n).repr.toList = Nat.toDigits 10 n := Nat.toList_repr
    rw [hchars, ofSignedDigits, Nat.ofDigitChars_ten_toDigits]
    · rfl
    · exact fun digits => toDigits_ne_cons_minus n digits
  | negSucc n =>
    have hchars : (Int.negSucc n).repr.toList = '-' :: Nat.toDigits 10 (n + 1) := by
      show ("-" ++ Nat.repr (n + 1)).toList = _
      rw [String.toList_append, Nat.toList_repr]
      rfl
    rw [hchars, ofSignedDigits, Nat.ofDigitChars_ten_toDigits]
    rfl

theorem integer?_eq_some_iff {cs : List Char} {i : Int} :
    integer? cs = some i ↔ i.repr.toList = cs := by
  rw [integer?, Option.filter_eq_some_iff, decide_eq_true_iff, Option.some_inj]
  constructor
  · exact And.right
  · rintro rfl
    exact ⟨ofSignedDigits_repr i, rfl⟩

/-- If values can be read back, and none of them is written as a minus sign, then so can a value or
its reset. -/
theorem orReset?_eq_some_iff {write : α → List Char} {read? : List Char → Option α}
    (h : ∀ {cs a}, read? cs = some a ↔ write a = cs) (hminus : ∀ a, write a ≠ ['-'])
    {cs : List Char} {o : Option α} : orReset? read? cs = some o ↔ orReset write o = cs := by
  unfold orReset?
  split
  · rename_i hreset
    subst hreset
    cases o with
    | none => simp [orReset]
    | some a => simpa [orReset] using hminus a
  · rename_i hvalue
    cases o with
    | none => simpa [orReset, eq_comm] using hvalue
    | some a => simp [orReset, h]

theorem orReset?_color?_iff {cs : List Char} {o : Option Color} :
    orReset? color? cs = some o ↔ orReset Color.chars o = cs := by
  refine orReset?_eq_some_iff color?_eq_some_iff fun c h => ?_
  cases h

theorem orReset?_number?_iff {cs : List Char} {o : Option Nat} :
    orReset? number? cs = some o ↔ orReset (Nat.toDigits 10) o = cs :=
  orReset?_eq_some_iff number?_eq_some_iff fun n => toDigits_ne_cons_minus n []

namespace Tag

/-- **A tag is read from its body, and from no other.** The cases are the letters that a body begins
with. -/
theorem read?_eq_some_iff {cs : List Char} {t : Tag} : read? cs = some t ↔ t.body = cs := by
  constructor
  · intro h
    unfold read? at h
    split at h
    all_goals
      simp only [Option.map_eq_some_iff, Option.some_inj, reduceCtorEq, orReset?_color?_iff,
        orReset?_number?_iff, color?_eq_some_iff, number?_eq_some_iff, integer?_eq_some_iff] at h
    -- first the tags with a value, then those without
    iterate 7
      · obtain ⟨_, rfl, rfl⟩ := h
        rfl
    all_goals
      subst h
      rfl
  · rintro rfl
    cases t with
    | background color => simp [body, read?, orReset?_color?_iff.mpr rfl]
    | foreground color => simp [body, read?, orReset?_color?_iff.mpr rfl]
    | font index => simp [body, read?, orReset?_number?_iff.mpr rfl]
    | ink line color => cases line <;> simp [body, read?, Line.letter, color?_eq_some_iff.mpr rfl]
    | thickness size => simp [body, read?, number?_eq_some_iff.mpr rfl]
    | draw line on => cases line <;> cases on <;> rfl
    | shift pixels => simp [body, read?, integer?_eq_some_iff.mpr rfl]

/-- No value is written with the brace that ends a tag. -/
theorem brace_not_mem_body (t : Tag) : '\x7d' ∉ t.body := by
  have hcolor (c : Color) : '\x7d' ∉ c.chars := by
    intro h
    rcases Color.mem_chars h with hhash | ⟨n, hn, hdigit⟩
    · cases hhash
    · exact (by decide : ∀ n < 16, '\x7d' ≠ Nat.digitChar n) n hn hdigit
  have hnumber (n : Nat) : '\x7d' ∉ Nat.toDigits 10 n := by
    intro h
    exact absurd (Nat.isDigit_of_mem_toDigits (by decide) (by decide) h) (by decide)
  cases t with
  | background color | foreground color => cases color <;> simp [body, orReset, hcolor]
  | font index => cases index <;> simp [body, orReset, hnumber]
  | ink line color => cases line <;> simp [body, Line.letter, hcolor]
  | thickness size => simp [body, hnumber]
  | draw line on => cases line <;> cases on <;> decide
  | shift pixels =>
    cases pixels with
    | ofNat n =>
      show '\x7d' ∉ 'O' :: (Nat.repr n).toList
      simp [hnumber]
    | negSucc n =>
      show '\x7d' ∉ 'O' :: ("-" ++ Nat.repr (n + 1)).toList
      simp [hnumber]

end Tag

/-! ### Pieces -/

inductive Piece where
  | char (c : Char)
  | tag (t : Tag)
deriving Repr, DecidableEq

def Piece.chars : Piece → List Char
  | char c => [c]
  | tag t => '%' :: '\x7b' :: (t.body ++ ['\x7d'])

def write (ps : List Piece) : List Char := ps.flatMap Piece.chars

@[simp] theorem write_nil : write [] = [] := rfl

@[simp] theorem write_cons (p : Piece) (ps : List Piece) : write (p :: ps) = p.chars ++ write ps :=
  rfl

@[simp] theorem write_append (ps qs : List Piece) : write (ps ++ qs) = write ps ++ write qs :=
  List.flatMap_append

/-- Every piece is written with some character. -/
theorem write_eq_nil_iff {ps : List Piece} : write ps = [] ↔ ps = [] := by
  constructor
  · intro h
    cases ps with
    | nil => rfl
    | cons p ps => cases p <;> simp [Piece.chars] at h
  · rintro rfl
    rfl

/-- The tag that `cs` begins with, and what follows it. -/
def front? : List Char → Option (Tag × List Char)
  | '%' :: '\x7b' :: cs =>
    match Text.cut '\x7d' cs with
    | (body, some rest) => (Tag.read? body).map (·, rest)
    | (_, none) => none
  | _ => none

/-- A tag is read in front of a text exactly if its characters are there. -/
theorem front?_eq_some_iff {cs rest : List Char} {t : Tag} :
    front? cs = some (t, rest) ↔ (Piece.tag t).chars ++ rest = cs := by
  constructor
  · intro h
    unfold front? at h
    split at h
    · rename_i cs
      split at h
      · rename_i body after hcut
        obtain ⟨t', ht, heq⟩ := Option.map_eq_some_iff.mp h
        cases heq
        rw [Text.eq_of_cut_eq_some hcut, ← Tag.read?_eq_some_iff.mp ht]
        simp [Piece.chars]
      · cases h
    · cases h
  · rintro rfl
    have hcut := Text.cut_append t.brace_not_mem_body rest
    have hchars : (Piece.tag t).chars ++ rest = '%' :: '\x7b' :: (t.body ++ '\x7d' :: rest) := by
      simp [Piece.chars]
    rw [hchars, front?, hcut]
    simp [Tag.read?_eq_some_iff.mpr rfl]

/-- The pieces that make up `cs`. -/
def read? : List Char → Option (List Piece)
  | [] => some []
  | c :: cs =>
    if c = '%' then
      match _ : front? (c :: cs) with
      | some (t, rest) => (read? rest).map (.tag t :: ·)
      | none => none
    else (read? cs).map (.char c :: ·)
termination_by cs => cs.length
decreasing_by
  · have := congrArg List.length (front?_eq_some_iff.mp ‹_›)
    simp only [Piece.chars, List.length_append, List.length_cons] at this ⊢
    omega
  · simp

/-- A tag in front of a text is read as this tag, and the rest as before. -/
theorem read?_tag (t : Tag) (rest : List Char) :
    read? ((Piece.tag t).chars ++ rest) = (read? rest).map (.tag t :: ·) := by
  have hfront := front?_eq_some_iff.mpr (rfl : (Piece.tag t).chars ++ rest = _)
  simp only [Piece.chars, List.cons_append] at hfront ⊢
  rw [read?, if_pos rfl]
  split <;> rename_i heq <;> rw [hfront] at heq <;> cases heq
  rfl

theorem read?_char {c : Char} (hc : c ≠ '%') (rest : List Char) :
    read? (c :: rest) = (read? rest).map (.char c :: ·) := by
  rw [read?, if_neg hc]

/-- **Reading is the inverse of writing.** -/
theorem read?_eq_some_iff {cs : List Char} {ps : List Piece} :
    read? cs = some ps ↔ write ps = cs ∧ .char '%' ∉ ps := by
  constructor
  · intro h
    induction cs using read?.induct generalizing ps with
    | case1 =>
      rw [read?, Option.some_inj] at h
      subst h
      simp
    | case2 cs t rest hfront ih =>
      rw [← front?_eq_some_iff.mp hfront] at h ⊢
      rw [read?_tag] at h
      obtain ⟨ps, hps, rfl⟩ := Option.map_eq_some_iff.mp h
      obtain ⟨rfl, hplain⟩ := ih hps
      simpa using hplain
    | case3 cs hfront =>
      rw [read?, if_pos rfl] at h
      split at h <;> rename_i heq
      · rw [hfront] at heq
        cases heq
      · cases h
    | case4 c cs hc ih =>
      rw [read?_char hc] at h
      obtain ⟨ps, hps, rfl⟩ := Option.map_eq_some_iff.mp h
      obtain ⟨rfl, hplain⟩ := ih hps
      simpa [Piece.chars, eq_comm (a := '%'), hc] using hplain
  · rintro ⟨rfl, hplain⟩
    induction ps with
    | nil => rw [write_nil, read?]
    | cons p ps ih =>
      rw [List.mem_cons, not_or] at hplain
      cases p with
      | char c =>
        have hc : c ≠ '%' := fun heq => hplain.1 (by rw [heq])
        rw [write_cons, Piece.chars, List.singleton_append, read?_char hc, ih hplain.2]
        rfl
      | tag t =>
        rw [write_cons, read?_tag, ih hplain.2]
        rfl

end StatusBar.Markup
