import Mathlib.Data.List.DropRight
import StatusBar.Text.Blank

/-!
# Trimming

What is left of a text when the blanks at its ends are taken away: it neither begins nor ends with a
blank, and only blanks were around it. This determines it (`trimChars_eq_iff`).
-/

namespace StatusBar.Text

/-- The text neither begins nor ends with a blank. -/
structure IsTight (cs : List Char) : Prop where
  first : ∀ c ∈ cs.head?, isBlank c = false
  last : ∀ c ∈ cs.getLast?, isBlank c = false

def AllBlank (cs : List Char) : Prop := ∀ c ∈ cs, isBlank c = true

instance {cs : List Char} : Decidable (AllBlank cs) :=
  decidable_of_iff (cs.all isBlank = true) List.all_eq_true

variable {before core after cs : List Char}

theorem isTight_of_forall (h : ∀ c ∈ cs, isBlank c = false) : IsTight cs where
  first c hc := h c (List.mem_of_mem_head? hc)
  last c hc := h c (List.mem_of_mem_getLast? hc)

theorem dropTrailingBlanks_of_isTight (h : IsTight core) : dropTrailingBlanks core = core := by
  refine List.rdropWhile_eq_self_iff.mpr fun hne => ?_
  simp [h.last _ (List.getLast?_eq_getLast_of_ne_nil hne)]

theorem dropBlanks_append (h : AllBlank before) :
    dropBlanks (before ++ cs) = dropBlanks cs := List.dropWhile_append_of_pos h

theorem dropTrailingBlanks_append (h : AllBlank after) :
    dropTrailingBlanks (cs ++ after) = dropTrailingBlanks cs := by
  rw [dropTrailingBlanks, List.reverse_append,
    dropBlanks_append fun c hc => h c (List.mem_reverse.mp hc), dropTrailingBlanks]

/-- **Of a text within blanks just the text is left.** -/
theorem trimChars_append (hbefore : AllBlank before) (hafter : AllBlank after)
    (hcore : IsTight core) : trimChars (before ++ core ++ after) = core := by
  rw [trimChars, List.append_assoc, dropBlanks_append hbefore]
  cases hcs : core with
  | nil =>
    have hempty : dropBlanks after = [] := by
      rw [← List.append_nil after, dropBlanks_append hafter]
      rfl
    rw [List.nil_append, hempty]
    rfl
  | cons c cs =>
    have hfirst : dropBlanks (c :: cs ++ after) = c :: cs ++ after := by
      simp [dropBlanks, hcore.first c (by rw [hcs]; rfl)]
    rw [hfirst, dropTrailingBlanks_append hafter, ← hcs, dropTrailingBlanks_of_isTight hcore]

/-- Only blanks were around what is left. -/
theorem exists_eq_append_trimChars (cs : List Char) :
    ∃ before after, AllBlank before ∧ AllBlank after ∧ cs = before ++ trimChars cs ++ after := by
  refine ⟨cs.takeWhile isBlank, (dropBlanks cs).rtakeWhile isBlank, ?_, ?_, ?_⟩
  · exact fun c hc => List.mem_takeWhile_imp hc
  · exact fun c hc => List.mem_rtakeWhile_imp hc
  · have hend : trimChars cs ++ (dropBlanks cs).rtakeWhile isBlank = dropBlanks cs :=
      List.rdropWhile_append_rtakeWhile ..
    rw [List.append_assoc, hend]
    exact (List.takeWhile_append_dropWhile ..).symm

/-- What is left has no blanks around it. -/
theorem isTight_trimChars (cs : List Char) : IsTight (trimChars cs) where
  first c hc := by
    -- what is left begins like the text without the blanks at its start
    obtain ⟨after, hafter⟩ : trimChars cs <+: dropBlanks cs := List.rdropWhile_prefix ..
    have hhead : (dropBlanks cs).head? = some c := by
      rw [← hafter, List.head?_append, hc]
      rfl
    have hstart := List.head?_dropWhile_not isBlank cs
    rw [← dropBlanks, hhead] at hstart
    exact hstart
  last c hc := by
    obtain ⟨hne, rfl⟩ := List.mem_getLast?_eq_getLast hc
    exact Bool.eq_false_iff.mpr (List.rdropWhile_last_not _ _ hne)

/-- **Trimming takes the blanks at the ends away, and nothing else.** -/
theorem trimChars_eq_iff : trimChars cs = core ↔
    IsTight core ∧
      ∃ before after, AllBlank before ∧ AllBlank after ∧ cs = before ++ core ++ after := by
  constructor
  · rintro rfl
    exact ⟨isTight_trimChars cs, exists_eq_append_trimChars cs⟩
  · rintro ⟨hcore, before, after, hbefore, hafter, rfl⟩
    exact trimChars_append hbefore hafter hcore

/-- A text without blanks is left alone. -/
theorem trimChars_of_forall (h : ∀ c ∈ cs, isBlank c = false) : trimChars cs = cs :=
  trimChars_eq_iff.mpr
    ⟨isTight_of_forall h, [], [], by simp [AllBlank], by simp [AllBlank], by simp⟩

end StatusBar.Text
