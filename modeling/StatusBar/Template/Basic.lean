import StatusBar.Markup.Basic

/-!
# Templates

The value of a format is literal text with tags in angle brackets, such as `<label> at <time>`. A
tag's name consists of lower case letters, digits, `_` and `-`; whatever else stands in brackets is
literal text, brackets included.

`Segment.parse` takes a value apart and `Segment.write` puts it together again. A list of segments
is canonical when it could not be written with other segments, and `IsCanonical` says what that
means without `parse`.
-/

namespace StatusBar

/-- A part of a template. -/
inductive Segment where
  | text (content : String)
  /-- A tag, by its name without the brackets. -/
  | tag (name : String)
deriving Repr, DecidableEq, Inhabited

namespace Segment

/-- Whether `c` may stand in the name of a tag. -/
def isTagChar (c : Char) : Bool :=
  ('a' ≤ c && c ≤ 'z') || ('0' ≤ c && c ≤ '9') || c == '_' || c == '-'

def isTagName (cs : List Char) : Bool := !cs.isEmpty && cs.all isTagChar

/-! ### Taking apart -/

/-- The name of the tag that `cs` begins with, and what follows it. -/
def tag? : List Char → Option (List Char × List Char)
  | '<' :: cs =>
    match cs.takeWhile isTagChar, cs.dropWhile isTagChar with
    | c :: name, '>' :: rest => some (c :: name, rest)
    | _, _ => none
  | _ => none

/-- What is left behind a tag is shorter than the text with the tag. -/
theorem length_of_tag?_eq_some {cs name rest : List Char} (h : tag? cs = some (name, rest)) :
    rest.length < cs.length := by
  unfold tag? at h
  split at h
  · rename_i cs
    split at h
    · rename_i hd
      simp only [Option.some.injEq, Prod.mk.injEq] at h
      obtain ⟨_, rfl⟩ := h
      have := (List.dropWhile_sublist isTagChar (l := cs)).length_le
      rw [hd] at this
      simp only [List.length_cons] at this ⊢
      omega
    · simp at h
  · simp at h

/-- The literal text collected in reverse, if there is any. -/
def literal : List Char → List Segment
  | [] => []
  | cs => [.text (String.ofList cs.reverse)]

/-- Takes `cs` apart, behind the literal text `pending`, which is in reverse. -/
def scan (pending : List Char) : List Char → List Segment
  | [] => literal pending
  | c :: cs =>
    match _ : tag? (c :: cs) with
    | some (name, rest) => literal pending ++ .tag (String.ofList name) :: scan [] rest
    | none => scan (c :: pending) cs
termination_by cs => cs.length
decreasing_by
  · exact length_of_tag?_eq_some ‹_›
  · simp

def parse (value : String) : List Segment := scan [] value.toList

/-! ### Writing -/

def chars : Segment → List Char
  | text content => content.toList
  | tag name => '<' :: name.toList ++ ['>']

/-- The value that consists of the segments. -/
def write (segments : List Segment) : String :=
  String.ofList (segments.flatMap chars)

/-! ### Canonical lists -/

/-- Whether somewhere in `cs` stands a tag. -/
def HasTag (cs : List Char) : Prop :=
  ∃ before name after, isTagName name = true ∧ cs = before ++ '<' :: name ++ '>' :: after

/-- Every tag has a proper name, no text is empty or holds a tag, and no two texts are adjacent. -/
inductive IsCanonical : List Segment → Prop where
  | nil : IsCanonical []
  | tag {name segments} : isTagName name.toList = true → IsCanonical segments →
      IsCanonical (.tag name :: segments)
  | lastText {content} : content ≠ "" → ¬ HasTag content.toList → IsCanonical [.text content]
  | text {content name segments} : content ≠ "" → ¬ HasTag content.toList →
      IsCanonical (.tag name :: segments) → IsCanonical (.text content :: .tag name :: segments)

end Segment

/-- A template with its decorations. -/
structure Template where
  /-- The value it was parsed from. -/
  value : String := ""
  segments : List Segment := []
  /-- The label in front of the content. -/
  lead : Option Label := none
  /-- The label behind the content. -/
  trail : Option Label := none
  style : Markup.Style := {}
  /-- Spaces between two tags that have something to show. -/
  spacing : Nat := 0
  /-- Spaces on either side within the style. -/
  padding : Nat := 0
  /-- Spaces on either side outside the style. -/
  margin : Nat := 0
  /-- Shift of the whole in pixels. -/
  offset : Int := 0
deriving Repr, DecidableEq, Inhabited

namespace Template

def parse (value : String) : Template := { value, segments := Segment.parse value }

/-- The names of the tags in their order. -/
def tags (t : Template) : List String :=
  t.segments.filterMap fun | .tag name => some name | .text _ => none

/-- Whether the template uses a tag. -/
def has (t : Template) (name : String) : Bool := t.tags.contains name

end Template

end StatusBar
