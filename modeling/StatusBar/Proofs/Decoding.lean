import StatusBar.Config.Decode
import StatusBar.Proofs.Results

/-!
# Values of a type

When a value is one for a decoder, and what is read from it. A string may be given as a datetime,
which counts as its text; the other types are given in one way only.
-/

namespace StatusBar

open Toml (Value)

namespace Toml.Value

/-- The value is the string, or a datetime with this text. -/
inductive Spells : Value → String → Prop where
  | string (s : String) : Spells (.string s) s
  | datetime (d : Datetime) : Spells (.datetime d) d.text

/-- The value is the number, which has at most 32 bits. -/
inductive Counts : Value → Nat → Prop where
  | integer {n : Nat} : n < UInt32.size → Counts (.integer n) n

/-- The value is a list of values for these strings. -/
inductive Lists : Value → List String → Prop where
  | array {vs : List Value} {texts : List String} :
      List.Forall₂ Spells vs texts → Lists (.array vs) texts

end Toml.Value

/-! ### Decoders -/

namespace Decoder

/-- A text is taken as it is, and a datetime by its text. -/
theorem string_eq_ok_iff {v : Value} {s : String} : string v = .ok s ↔ v.Spells s := by
  constructor
  · intro h
    cases v with
    | string t =>
      cases h
      exact .string s
    | datetime d =>
      cases h
      exact .datetime d
    | integer | float | boolean | array | table => cases h
  · rintro (_ | _) <;> rfl

theorem string_of_forall_not_spells {v : Value} (h : ∀ s, ¬ v.Spells s) :
    string v = .error (.wrongType v "a string") := by
  cases v with
  | string s => exact absurd (.string s) (h s)
  | datetime d => exact absurd (.datetime d) (h d.text)
  | integer | float | boolean | array | table => rfl

theorem boolean_of_forall_ne {v : Value} (h : ∀ b, v ≠ .boolean b) :
    boolean v = .error (.wrongType v "a boolean") := by
  cases v with
  | boolean b => exact absurd rfl (h b)
  | string | integer | float | datetime | array | table => rfl

/-- A count is an integer from 0 that fits into 32 bits. -/
theorem u32_eq_ok_iff {v : Value} {n : Nat} : u32 v = .ok n ↔ v.Counts n := by
  constructor
  · intro h
    cases v with
    | integer i =>
      have hread : u32 (.integer i) = if 0 ≤ i ∧ i < UInt32.size then .ok i.toNat
          else .error (.outOfRange i "u32") := by
        simp only [u32, naturalBelow, integerIn]
        split <;> rfl
      rw [hread] at h
      split at h
      · rename_i hi
        cases h
        obtain ⟨m, rfl⟩ := Int.eq_ofNat_of_zero_le hi.1
        exact .integer (by omega)
      · cases h
    | string | float | boolean | datetime | array | table => cases h
  · rintro ⟨hn⟩
    have hrange : (0 : Int) ≤ n ∧ (n : Int) < UInt32.size := by omega
    simp only [u32, naturalBelow, integerIn, if_pos hrange]
    rfl

theorem strings_eq_ok_iff {v : Value} {texts : List String} :
    strings v = .ok texts ↔ v.Lists texts := by
  constructor
  · intro h
    cases v with
    | array vs => exact .array ((mapM_eq_ok_iff.mp h).imp fun _ _ => string_eq_ok_iff.mp)
    | string | integer | float | boolean | datetime | table => cases h
  · rintro ⟨h⟩
    exact mapM_eq_ok_iff.mpr (h.imp fun _ _ => string_eq_ok_iff.mpr)

end Decoder

end StatusBar
