/-!
# Replacing a token in a text

`replace token value text` puts `value` in the place of every occurrence of `token` that a scan
from left to right meets, where the scan goes on behind an occurrence and not inside it. The empty
token occurs at every boundary between two characters, and at both ends.
-/

namespace StatusBar.Text

/-- What follows `token` at the very start of `cs`, if it stands there. -/
def afterToken? : (token cs : List Char) → Option (List Char)
  | [], cs => some cs
  | _ :: _, [] => none
  | t :: ts, c :: cs => if t = c then afterToken? ts cs else none

/-- A text goes on behind a token with what is left when the token is taken away. -/
theorem afterToken?_eq_some_iff {token cs rest : List Char} :
    afterToken? token cs = some rest ↔ cs = token ++ rest := by
  induction token generalizing cs with
  | nil => simp [afterToken?, eq_comm]
  | cons t ts ih =>
    cases cs with
    | nil => simp [afterToken?]
    | cons c cs =>
      by_cases h : t = c
      · simp [afterToken?, h, ih]
      · simp [afterToken?, h, Ne.symm h]

/-- Replaces a token that has at least the character `t`. -/
def replaceChars (t : Char) (ts value : List Char) : List Char → List Char
  | [] => []
  | c :: rest =>
    match _ : afterToken? (t :: ts) (c :: rest) with
    | some after => value ++ replaceChars t ts value after
    | none => c :: replaceChars t ts value rest
termination_by cs => cs.length
decreasing_by
  · have := congrArg List.length (afterToken?_eq_some_iff.1 ‹_›)
    simp only [List.length_cons, List.length_append] at this ⊢
    omega
  · simp

/-- Puts `value` before every character, and once more at the end. -/
def interleave (value : List Char) : List Char → List Char
  | [] => value
  | c :: cs => value ++ c :: interleave value cs

/-- Every occurrence of `token` in `text` is replaced by `value`. -/
def replace (token value text : String) : String :=
  String.ofList <| match token.toList with
    | [] => interleave value.toList text.toList
    | t :: ts => replaceChars t ts value.toList text.toList

def hasToken (token : List Char) : List Char → Bool
  | [] => token.isEmpty
  | c :: cs => (afterToken? token (c :: cs)).isSome || hasToken token cs

def contains (text token : String) : Bool := hasToken token.toList text.toList

end StatusBar.Text
