/-!
# Splitting at a character

`splitChars` cuts at every occurrence of a separator, `splitCharsAtMost` at the first few only. A
text without the separator is a single part, so no result is empty.
-/

namespace StatusBar.Text

/-- The stretch before the first `sep`, and what follows it if there is one. -/
def cut (sep : Char) : List Char → List Char × Option (List Char)
  | [] => ([], none)
  | c :: cs =>
    if c = sep then ([], some cs)
    else let (before, after) := cut sep cs; (c :: before, after)

/-- A text that is cut has the separator between its two parts. -/
theorem eq_of_cut_eq_some {sep : Char} {cs before after : List Char}
    (h : cut sep cs = (before, some after)) : cs = before ++ sep :: after := by
  induction cs generalizing before with
  | nil => simp [cut] at h
  | cons c cs ih =>
    unfold cut at h
    split at h
    · rename_i hc
      simp only [Prod.mk.injEq, Option.some.injEq] at h
      obtain ⟨rfl, rfl⟩ := h
      rw [hc, List.nil_append]
    · simp only [Prod.mk.injEq] at h
      obtain ⟨rfl, hafter⟩ := h
      rw [List.cons_append, ← ih (Prod.ext rfl hafter)]

theorem length_of_cut_eq_some {sep : Char} {cs before after : List Char}
    (h : cut sep cs = (before, some after)) : after.length < cs.length := by
  rw [eq_of_cut_eq_some h, List.length_append, List.length_cons]
  omega

theorem cut_of_not_mem {sep : Char} {cs : List Char} (h : sep ∉ cs) : cut sep cs = (cs, none) := by
  induction cs with
  | nil => rfl
  | cons c cs ih =>
    rw [List.mem_cons, not_or] at h
    rw [cut, if_neg (Ne.symm h.1), ih h.2]

/-- A text is cut at the first separator. -/
theorem cut_append {sep : Char} {before : List Char} (h : sep ∉ before) (after : List Char) :
    cut sep (before ++ sep :: after) = (before, some after) := by
  induction before with
  | nil => simp [cut]
  | cons c cs ih =>
    rw [List.mem_cons, not_or] at h
    rw [List.cons_append, cut, if_neg (Ne.symm h.1), ih h.2]

/-- The parts of `cs` between the occurrences of `sep`. -/
def splitChars (sep : Char) (cs : List Char) : List (List Char) :=
  match _ : cut sep cs with
  | (before, none) => [before]
  | (before, some after) => before :: splitChars sep after
termination_by cs.length
decreasing_by exact length_of_cut_eq_some ‹_›

/-- At most `n + 1` parts of `cs`: the last one may hold further occurrences of `sep`. -/
def splitCharsAtMost (sep : Char) : (n : Nat) → List Char → List (List Char)
  | 0, cs => [cs]
  | n + 1, cs =>
    match cut sep cs with
    | (before, none) => [before]
    | (before, some after) => before :: splitCharsAtMost sep n after

/-- The parts of `s` between the occurrences of `sep`. -/
def split (sep : Char) (s : String) : List String :=
  (splitChars sep s.toList).map String.ofList

theorem splitChars_of_not_mem {sep : Char} {cs : List Char} (h : sep ∉ cs) :
    splitChars sep cs = [cs] := by
  rw [splitChars]
  split <;> rename_i heq <;> rw [cut_of_not_mem h] at heq <;> cases heq
  rfl

theorem splitChars_append {sep : Char} {before : List Char} (h : sep ∉ before)
    (after : List Char) :
    splitChars sep (before ++ sep :: after) = before :: splitChars sep after := by
  rw [splitChars]
  split <;> rename_i heq <;> rw [cut_append h] at heq <;> cases heq
  rfl

/-- What is joined with the separator has the parts of both sides. -/
theorem splitChars_append_cons (sep : Char) (cs after : List Char) :
    splitChars sep (cs ++ sep :: after) = splitChars sep cs ++ splitChars sep after := by
  by_cases h : sep ∈ cs
  · obtain ⟨before, rest, hcs, hbefore⟩ := List.eq_append_cons_of_mem h
    have hshorter : rest.length < cs.length := by
      rw [hcs, List.length_append, List.length_cons]
      omega
    rw [hcs, List.append_assoc, List.cons_append, splitChars_append hbefore,
      splitChars_append hbefore, splitChars_append_cons sep rest after, List.cons_append]
  · rw [splitChars_append h, splitChars_of_not_mem h, List.singleton_append]
termination_by cs.length

theorem splitChars_ne_nil (sep : Char) (cs : List Char) : splitChars sep cs ≠ [] := by
  rw [splitChars]
  split <;> simp

/-- Two texts joined with the separator have the parts of both. -/
theorem split_append (sep : Char) (s t : String) :
    split sep (s ++ String.singleton sep ++ t) = split sep s ++ split sep t := by
  simp [split, splitChars_append_cons]

/-- A text without the separator has one part. -/
theorem split_of_not_mem {sep : Char} {s : String} (h : sep ∉ s.toList) : split sep s = [s] := by
  rw [split, splitChars_of_not_mem h]
  simp

end StatusBar.Text
