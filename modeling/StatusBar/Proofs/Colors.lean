import StatusBar.Color
import StatusBar.Proofs.Trimming

/-!
# The written form of a colour

A colour is read back from the text it is written as (`Color.ofHex?_text`).
-/

namespace StatusBar

namespace Color

theorem digit?_digitChar : ∀ n < 16, digit? (Nat.digitChar n) = some n := by decide

theorem isBlank_digitChar : ∀ n < 16, Text.isBlank (Nat.digitChar n) = false := by decide

theorem channel_digits (x : UInt8) : channel (x.toNat / 16) (x.toNat % 16) = x := by
  rw [channel, Nat.div_add_mod]
  simp

/-- The digits of a channel are read before what follows them. -/
theorem mapM_digit?_digits (x : UInt8) (cs : List Char) :
    (digits x ++ cs).mapM digit? =
      (cs.mapM digit?).map fun ds => x.toNat / 16 :: x.toNat % 16 :: ds := by
  have hx := x.toNat_lt
  have hhigh := digit?_digitChar (x.toNat / 16) (by omega)
  have hlow := digit?_digitChar (x.toNat % 16) (by omega)
  simp only [digits, List.cons_append, List.nil_append, List.mapM_cons, hhigh, hlow]
  cases cs.mapM digit? <;> rfl

theorem mem_digits {x : UInt8} {c : Char} (h : c ∈ digits x) : ∃ n < 16, c = Nat.digitChar n := by
  have hx := x.toNat_lt
  simp only [digits, List.mem_cons, List.not_mem_nil, or_false] at h
  rcases h with rfl | rfl
  · exact ⟨_, by omega, rfl⟩
  · exact ⟨_, Nat.mod_lt _ (by omega), rfl⟩

/-- A colour is written with a hash sign and hexadecimal digits. -/
theorem mem_chars {c : Color} {d : Char} (h : d ∈ c.chars) :
    d = '#' ∨ ∃ n < 16, d = Nat.digitChar n := by
  simp only [chars, List.mem_cons, List.mem_append, or_assoc] at h
  rcases h with rfl | h | h | h | h
  · exact .inl rfl
  · exact .inr (mem_digits h)
  · exact .inr (mem_digits h)
  · exact .inr (mem_digits h)
  · split at h
    · cases h
    · exact .inr (mem_digits h)

theorem digitChar_ne_hash : ∀ n < 16, Nat.digitChar n ≠ '#' := by decide

/-- Nothing but the hash sign is dropped from a colour as it is written. -/
theorem significant_text (c : Color) : significant c.text = c.chars.tail := by
  have hblank : ∀ d ∈ c.chars, Text.isBlank d = false := by
    intro d hd
    rcases mem_chars hd with rfl | ⟨n, hn, rfl⟩
    · decide
    · exact isBlank_digitChar n hn
  have hfirst : Nat.digitChar (c.red.toNat / 16) ≠ '#' := by
    have := c.red.toNat_lt
    exact digitChar_ne_hash _ (by omega)
  rw [significant, text, String.toList_ofList, Text.trimChars_of_forall hblank]
  simp [chars, digits, hfirst]

/-- **A colour is read back from its written form.** -/
theorem ofHex?_text (c : Color) : ofHex? c.text = some c := by
  obtain ⟨r, g, b, a⟩ := c
  rw [ofHex?, significant_text]
  simp only [chars, List.tail_cons, List.append_assoc, mapM_digit?_digits]
  split
  · rename_i halpha
    subst halpha
    simp [ofDigits?, channel_digits]
  · have := mapM_digit?_digits a []
    rw [List.append_nil] at this
    rw [this]
    simp [ofDigits?, channel_digits]

end Color

end StatusBar
