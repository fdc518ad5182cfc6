import Mathlib.Data.List.Destutter
import StatusBar.Proofs.Siblings
import StatusBar.Proofs.UpToDate

/-!
# The lines of a bar

A redraw computes the line of the bar from what the slots show, and prints it if it is not the line
printed last. Between two redraws anything may be done to the modules, and a redraw itself changes
them, too: they render, and what cannot be rendered halts its module.

Over a whole history, what is printed is what has been computed with repetitions left out
(`redraw_prints_changes`). The invariant is that the bar remembers the line printed last
(`last_through`).
-/

namespace StatusBar

namespace Slot

variable {ω : Type} [Widget ω]

/-- What the slot shows when it is asked. -/
def contents : Slot ω → String
  | live m => m.content.1
  | failed _ => ""

theorem cached_refresh (s : Slot ω) : s.refresh.cached = s.contents := by
  cases s <;> rfl

/-- A slot that has just been refreshed is not changed by another refresh. -/
theorem refresh_refresh (s : Slot ω) : s.refresh.refresh = s.refresh := by
  cases s with
  | failed m => rfl
  | live m =>
    show live m.refresh.refresh = live m.refresh
    rw [Module.refresh, Module.refreshWhile_of_not_isStale m.isStale_refresh]

end Slot

namespace Bar

variable {ω : Type} [Widget ω]

/-! ### One redraw -/

/-- The line that a redraw computes. -/
def computed (b : Bar ω) : String :=
  b.separator.intercalate ((b.slots.map Slot.contents).filter (!·.isEmpty))

theorem line_refresh (b : Bar ω) : b.refresh.line = b.computed := by
  simp only [line, refresh, computed, List.map_map, Function.comp_def, Slot.cached_refresh]

/-- A slot that shows nothing leaves no separator behind. -/
theorem computed_of_contents_eq_empty {b : Bar ω} {before after : List (Slot ω)} {s : Slot ω}
    (hslots : b.slots = before ++ s :: after) (hs : s.contents = "") :
    b.computed = { b with slots := before ++ after }.computed := by
  simp [computed, hslots, hs]

theorem refresh_refresh (b : Bar ω) : b.refresh.refresh = b.refresh := by
  simp only [refresh, List.map_map, Function.comp_def, Slot.refresh_refresh]

/-- A redraw prints the line if it is not the last one that was printed. -/
theorem redraw_eq (b : Bar ω) :
    b.redraw = if b.last = some b.computed then (none, b.refresh)
      else (some b.computed, { b.refresh with last := some b.computed }) := by
  rw [redraw, line_refresh]
  rfl

/-- Whether the line is printed or not, it is the one to be compared with next. -/
theorem redraw_snd (b : Bar ω) : b.redraw.2 = { b.refresh with last := some b.computed } := by
  rw [redraw_eq]
  split
  · rename_i hlast
    rw [← hlast]
    rfl
  · rfl

/-- **A second redraw prints nothing and changes nothing.** -/
theorem redraw_redraw (b : Bar ω) : b.redraw.2.redraw = (none, b.redraw.2) := by
  have hrefresh : b.redraw.2.refresh = b.redraw.2 := by
    have hslots : b.refresh.refresh.slots = b.refresh.slots := by rw [refresh_refresh]
    rw [redraw_snd]
    simp only [refresh] at hslots ⊢
    rw [hslots]
  have hlast : b.redraw.2.last = some b.redraw.2.computed := by
    have hline : b.redraw.2.computed = b.computed := by
      rw [← line_refresh, hrefresh, redraw_snd, ← line_refresh b]
      rfl
    rw [hline, redraw_snd]
  rw [redraw_eq b.redraw.2, if_pos hlast, hrefresh]

/-! ### Histories -/

/-- What happens to a bar. -/
inductive Event (ω : Type) where
  | redraw
  /-- Something is done to the module in the `i`th slot. -/
  | operate (i : Nat) (op : StatusBar.Operation ω)
  | takeSignals

namespace Event

def apply (b : Bar ω) : Event ω → Bar ω
  | redraw => b.redraw.2
  | operate i op => { b with slots := b.slots.modify i (Slot.mapLive fun m => op.apply m) }
  | takeSignals => b.takeSignals.2

/-- The line that is computed for an event. -/
def computed? (b : Bar ω) : Event ω → Option String
  | redraw => some b.computed
  | operate _ _ | takeSignals => none

/-- The line that is printed for an event. -/
def printed? (b : Bar ω) : Event ω → Option String
  | redraw => b.redraw.1
  | operate _ _ | takeSignals => none

theorem separator_apply (b : Bar ω) (e : Event ω) : (e.apply b).separator = b.separator := by
  cases e with
  | redraw =>
    rw [apply, redraw_eq]
    split <;> rfl
  | operate i op | takeSignals => rfl

/-- A line is printed if it has been computed, and is not the one printed last. -/
theorem printed?_eq (b : Bar ω) (e : Event ω) :
    e.printed? b = (e.computed? b).filter fun line => b.last ≠ some line := by
  cases e with
  | redraw =>
    rw [printed?, redraw_eq, computed?]
    by_cases hlast : b.last = some b.computed <;> simp [Option.filter, hlast]
  | operate i op | takeSignals => rfl

/-- The bar remembers what is printed. -/
theorem last_apply (b : Bar ω) (e : Event ω) : (e.apply b).last = (e.printed? b).or b.last := by
  cases e with
  | redraw =>
    rw [apply, printed?, redraw_eq]
    split <;> rfl
  | operate i op | takeSignals => rfl

end Event

def through (b : Bar ω) (events : List (Event ω)) : Bar ω := events.foldl Event.apply b

/-- The lines that are computed meanwhile, in order. -/
def computedIn (b : Bar ω) : List (Event ω) → List String
  | [] => []
  | e :: events => (e.computed? b).toList ++ computedIn (e.apply b) events

/-- The lines that are printed meanwhile, in order. -/
def printedIn (b : Bar ω) : List (Event ω) → List String
  | [] => []
  | e :: events => (e.printed? b).toList ++ printedIn (e.apply b) events

theorem separator_through (b : Bar ω) (events : List (Event ω)) :
    (b.through events).separator = b.separator := by
  induction events generalizing b with
  | nil => rfl
  | cons e events ih => exact (ih (e.apply b)).trans (e.separator_apply b)

/-- The last line of a bar is the last that was printed, or the one before if none was. -/
theorem last_through (b : Bar ω) (events : List (Event ω)) :
    (b.through events).last = (b.last.toList ++ b.printedIn events).getLast? := by
  induction events generalizing b with
  | nil => cases h : b.last <;> simp [through, printedIn, h]
  | cons e events ih =>
    have hrest := ih (e.apply b)
    rw [e.last_apply b] at hrest
    rw [printedIn]
    refine hrest.trans ?_
    cases e.printed? b with
    | none => rfl
    | some line =>
      simp [List.getLast?_cons]

/-- What is printed is what is computed, with repetitions left out. -/
theorem printedIn_eq_destutter (b : Bar ω) (events : List (Event ω)) :
    b.last.toList ++ b.printedIn events =
      (b.last.toList ++ b.computedIn events).destutter (· ≠ ·) := by
  induction events generalizing b with
  | nil => cases b.last <;> rfl
  | cons e events ih =>
    have hrest := ih (e.apply b)
    rw [e.last_apply b, e.printed?_eq b] at hrest
    rw [printedIn, computedIn, e.printed?_eq b]
    cases hcomputed : e.computed? b with
    | none =>
      rw [hcomputed] at hrest
      exact hrest
    | some line =>
      rw [hcomputed] at hrest
      cases hlast : b.last with
      | none =>
        simpa [Option.filter, hlast] using hrest
      | some last =>
        -- the new line follows the one printed last
        by_cases hsame : last = line
        · subst hsame
          simpa [Option.filter, hlast, List.destutter] using hrest
        · simpa [Option.filter, hlast, hsame, List.destutter] using hrest

/-- Nothing is printed before the first redraw. -/
theorem printedIn_eq_nil {b : Bar ω} {events : List (Event ω)} (h : Event.redraw ∉ events) :
    b.printedIn events = [] := by
  induction events generalizing b with
  | nil => rfl
  | cons e events ih =>
    rw [List.mem_cons, not_or] at h
    rw [printedIn, ih h.2]
    cases e with
    | redraw => exact absurd rfl h.1
    | operate i op | takeSignals => rfl

/-! ### What a redraw prints -/

/-- A bar after some events, and what it has printed and prints next. -/
structure PrintsChanges (b : Bar ω) (past : List (Event ω)) : Prop where
  /-- The line consists of all that is to be seen, in the order of the slots. -/
  line : (b.through past).refresh.line = b.separator.intercalate
    (((b.through past).slots.map Slot.contents).filter (!·.isEmpty))
  /-- The line is the same without the slots that show nothing. -/
  gap : ∀ before s after, (b.through past).slots = before ++ s :: after → s.contents = "" →
    (b.through past).refresh.line = b.separator.intercalate
      (((before ++ after).map Slot.contents).filter (!·.isEmpty))
  /-- A redraw prints its line if it is the first redraw, or if the line differs from the one
  printed last, and otherwise prints nothing. -/
  redraw : ∀ line, (b.through past).redraw.1 = some line ↔
    line = (b.through past).refresh.line ∧
      (Event.redraw ∉ past ∨ (b.printedIn past).getLast? ≠ some line)
  /-- What has been printed is what has been computed, with repetitions left out. -/
  printed : b.printedIn past = (b.computedIn past).destutter (· ≠ ·)
  distinct : (b.printedIn past).IsChain (· ≠ ·)
  /-- A redraw that is repeated at once prints nothing, and leaves the bar alone. -/
  again : (b.through past).redraw.2.redraw = (none, (b.through past).redraw.2)

end Bar

/-- **What is printed is the changes of the line.** The bar may have any slots, whatever has been
done to their modules, and anything may be done to them between two redraws. -/
theorem redraw_prints_changes {ω : Type} [Widget ω] (slots : List (Slot ω)) (separator : String)
    (past : List (Bar.Event ω)) : Bar.PrintsChanges { slots, separator } past := by
  let b : Bar ω := { slots, separator }
  have hseparator : (b.through past).separator = separator := b.separator_through past
  have hlast : (b.through past).last = (b.printedIn past).getLast? := b.last_through past
  have hprinted : b.printedIn past = (b.computedIn past).destutter (· ≠ ·) :=
    b.printedIn_eq_destutter past
  refine ⟨?line, ?gap, ?redraw, hprinted, ?distinct, (b.through past).redraw_redraw⟩
  case line =>
    rw [Bar.line_refresh, Bar.computed]
    rw [hseparator]
  case gap =>
    intro before s after hslots hs
    rw [Bar.line_refresh, Bar.computed_of_contents_eq_empty hslots hs, Bar.computed]
    rw [hseparator]
  case redraw =>
    intro line
    show (b.through past).redraw.1 = some line ↔ _
    rw [Bar.line_refresh, Bar.redraw_eq, hlast]
    constructor
    · intro hline
      split at hline
      · cases hline
      · rename_i hnew
        cases hline
        exact ⟨rfl, .inr hnew⟩
    · rintro ⟨rfl, hnew⟩
      rw [if_neg]
      rcases hnew with hfirst | hnew
      · rw [Bar.printedIn_eq_nil hfirst]
        exact nofun
      · exact hnew
  case distinct =>
    rw [hprinted]
    exact List.isChain_destutter _ _

end StatusBar
