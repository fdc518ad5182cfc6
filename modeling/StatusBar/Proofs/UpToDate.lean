import Mathlib.Data.List.Forall2
import StatusBar.Proofs.Content
import StatusBar.Session

/-!
# A bar that is up to date

A bar is up to date when all that was broadcast has been drawn, and the line drawn last is the line
of what the slots show. Drawing makes it so, whatever was before. Of what else happens in a session
nothing makes something new to show without a signal that the session will draw for. So a session is
up to date after each thing that happened (`isUpToDate_after`).
-/

namespace StatusBar

open Clock (Moment)

variable {ω : Type}

/-- Whether the host draws the bar when it gets the signal. -/
def Signal.isAlarm : Signal → Bool
  | .changed _ | .halted _ _ => true
  | .stopped _ => false

/-- Whether there is something new to show. -/
def Slot.isStale : Slot ω → Bool
  | .live m => m.isStale
  | .failed _ => false

/-- All that was broadcast has been drawn, and the line drawn last is that of what the slots
show. -/
structure Bar.IsUpToDate (b : Bar ω) : Prop where
  unmarked : ∀ m, .live m ∈ b.slots → m.state ≠ .halted → m.changed = false
  last : b.last = some b.line

/-- A bar is up to date if no slot is stale and the line drawn last is that of what they show. -/
theorem Bar.isUpToDate_of_isStale {b : Bar ω} (hstale : ∀ slot ∈ b.slots, slot.isStale = false)
    (hlast : b.last = some b.line) : b.IsUpToDate := by
  refine ⟨fun m hm hstate => ?_, hlast⟩
  have hm := hstale _ hm
  simpa [Slot.isStale, Module.isStale, hstate] using hm

/-- No slot of a bar is stale that is up to date. -/
theorem Bar.IsUpToDate.isStale {b : Bar ω} (h : b.IsUpToDate) {slot : Slot ω}
    (hslot : slot ∈ b.slots) : slot.isStale = false := by
  cases slot with
  | failed m => rfl
  | live m =>
    by_cases hstate : m.state = .halted
    · simp [Slot.isStale, Module.isStale, hstate]
    · simp [Slot.isStale, Module.isStale, h.unmarked m hslot hstate]

/-! ### Drawing -/

variable [Widget ω]

omit [Widget ω] in
theorem Module.changed_settle (m : Module ω) (text : Except ModuleError String) :
    (m.settle text).changed = m.changed := by
  cases text with
  | ok text => rfl
  | error e =>
    rw [settle, fail]
    split <;> rfl

/-- A module that has been refreshed is not stale, for it has been drawn or halted. -/
theorem Module.isStale_refresh (m : Module ω) : m.refresh.isStale = false := by
  cases h : m.isStale with
  | false =>
    rw [refresh, refreshWhile_of_not_isStale h]
    exact h
  | true =>
    rw [refresh, refreshWhile_of_isStale h]
    have hchanged : ({ m with changed := false }.render.module).changed = false := by
      unfold render
      split <;> rfl
    simp only [isStale, changed_settle, hchanged, Bool.false_and]

theorem Slot.isStale_refresh (slot : Slot ω) : slot.refresh.isStale = false := by
  cases slot with
  | live m => exact m.isStale_refresh
  | failed m => rfl

/-- **A session is up to date when it has drawn.** -/
theorem Session.isUpToDate_draw (s : Session ω) : s.draw.bar.IsUpToDate := by
  have hstale : ∀ slot ∈ s.bar.refresh.slots, slot.isStale = false := by
    intro slot hslot
    obtain ⟨slot, -, rfl⟩ := List.mem_map.mp hslot
    exact slot.isStale_refresh
  rw [draw, Bar.redraw]
  split
  · rename_i bar hredraw
    split at hredraw
    · rename_i hlast
      cases hredraw
      exact Bar.isUpToDate_of_isStale hstale hlast
    · cases hredraw
  · rename_i line bar hredraw
    split at hredraw
    · cases hredraw
    · cases hredraw
      exact Bar.isUpToDate_of_isStale hstale rfl

/-! ### Signals -/

namespace Session

theorem handle_eq (s : Session ω) (signal : Signal) :
    s.handle signal = if signal.isAlarm then s.draw else s := by
  cases signal <;> rfl

/-- A session is up to date after some signals if it was before, or if one of them makes it draw. -/
theorem isUpToDate_foldl_handle {s : Session ω} {signals : List Signal}
    (h : s.bar.IsUpToDate ∨ ∃ signal ∈ signals, signal.isAlarm = true) :
    (signals.foldl handle s).bar.IsUpToDate := by
  induction signals generalizing s with
  | nil =>
    rcases h with h | ⟨signal, hsignal, -⟩
    · exact h
    · cases hsignal
  | cons signal signals ih =>
    rw [List.foldl_cons, handle_eq]
    split
    · exact ih (.inl s.isUpToDate_draw)
    · rename_i hquiet
      refine ih (h.imp_right ?_)
      rintro ⟨signal', hsignal', halarm⟩
      rcases List.mem_cons.mp hsignal' with rfl | hsignal'
      · exact absurd halarm hquiet
      · exact ⟨signal', hsignal', halarm⟩

end Session

omit [Widget ω] in
@[simp] theorem Slot.isStale_takeSignals (slot : Slot ω) :
    slot.takeSignals.2.isStale = slot.isStale := by
  cases slot <;> rfl

omit [Widget ω] in
@[simp] theorem Slot.cached_takeSignals (slot : Slot ω) :
    slot.takeSignals.2.cached = slot.cached := by
  cases slot <;> rfl

omit [Widget ω] in
theorem Bar.line_takeSignals (b : Bar ω) : b.takeSignals.2.line = b.line := by
  have hcached : b.takeSignals.2.slots.map Slot.cached = b.slots.map Slot.cached := by
    simp [takeSignals, Function.comp_def]
  rw [line, hcached]
  rfl

/-- What was shown has been drawn, and a slot with something new to show has sent an alarm. -/
structure Bar.IsHeard (b : Bar ω) : Prop where
  last : b.last = some b.line
  alarmed : ∀ slot ∈ b.slots, slot.isStale = true → ∃ s ∈ slot.takeSignals.1, s.isAlarm = true

omit [Widget ω] in
theorem Bar.IsUpToDate.isHeard {b : Bar ω} (h : b.IsUpToDate) : b.IsHeard := by
  refine ⟨h.last, fun slot hslot hstale => ?_⟩
  rw [h.isStale hslot] at hstale
  cases hstale

namespace Session

/-- **A session is up to date again when it has reacted**: it draws if one of the signals is an
alarm, and else nothing was new. -/
theorem isUpToDate_react {s : Session ω} (h : s.bar.IsHeard) : s.react.bar.IsUpToDate := by
  apply isUpToDate_foldl_handle
  by_cases hstale : ∃ slot ∈ s.bar.slots, slot.isStale = true
  · obtain ⟨slot, hslot, hstale⟩ := hstale
    obtain ⟨signal, hsignal, halarm⟩ := h.alarmed slot hslot hstale
    refine .inr ⟨signal, ?_, halarm⟩
    exact List.mem_flatMap.mpr ⟨slot.takeSignals, List.mem_map_of_mem hslot, hsignal⟩
  · refine .inl (Bar.isUpToDate_of_isStale ?_ ?_)
    · intro slot hslot
      simp only [List.map_map, List.mem_map, Function.comp] at hslot
      obtain ⟨slot, hslot, rfl⟩ := hslot
      rw [slot.isStale_takeSignals]
      simpa using fun h => hstale ⟨slot, hslot, h⟩
    · show s.bar.last = some s.bar.takeSignals.2.line
      rw [s.bar.line_takeSignals]
      exact h.last

theorem isUpToDate_rest {s : Session ω} (h : s.bar.IsHeard) : s.rest.bar.IsUpToDate :=
  isUpToDate_react (isUpToDate_react h).isHeard

/-! ### What happens to a session -/

end Session

section Follows

omit [Widget ω]

/-- What is shown stays, and if there comes to be something new to show, then an alarm has been
sent. -/
structure Slot.Follows (slot slot' : Slot ω) : Prop where
  cached : slot'.cached = slot.cached
  stale : slot'.isStale = true →
    slot.isStale = true ∨ ∃ s ∈ slot'.takeSignals.1, s.isAlarm = true

theorem Slot.Follows.refl (slot : Slot ω) : slot.Follows slot := ⟨rfl, .inl⟩

/-- What threads do to a module lets its slot follow: what is shown stays, and an alarm is sent when
there is something new. -/
theorem Slot.follows_of_go {m m' : Module ω} (h : Module.Go m m') :
    (Slot.live m).Follows (.live m') := by
  have hevolves := Module.evolves_go h
  refine ⟨hevolves.cached, fun hstale => ?_⟩
  obtain ⟨sent, hsent, hchanged⟩ := hevolves.heard
  simp only [isStale, Module.isStale, Bool.and_eq_true, bne_iff_ne] at hstale ⊢
  obtain ⟨hstale, hopen⟩ := hstale
  rw [hchanged, Bool.or_eq_true, List.any_eq_true] at hstale
  rcases hstale with hstale | ⟨s, hs, hbroadcast⟩
  · -- the mark is an old one
    refine .inl ⟨hstale, ?_⟩
    rcases h.state with hstate | hhalted
    · rwa [hstate] at hopen
    · exact absurd hhalted hopen
  · refine .inr ⟨s, ?_, ?_⟩
    · show s ∈ m'.signals
      rw [hsent]
      exact List.mem_append_right _ hs
    · cases s with
      | changed => rfl
      | stopped | halted => cases hbroadcast

/-- Slots that follow show what they have shown. -/
theorem map_cached_of_follows {slots slots' : List (Slot ω)}
    (h : List.Forall₂ Slot.Follows slots slots') :
    slots'.map Slot.cached = slots.map Slot.cached := by
  induction h with
  | nil => rfl
  | cons hslot _ ih => rw [List.map_cons, List.map_cons, hslot.cached, ih]

/-- A slot that follows has one that it follows. -/
theorem exists_follows_of_mem {slots slots' : List (Slot ω)}
    (h : List.Forall₂ Slot.Follows slots slots') {slot' : Slot ω} (hslot' : slot' ∈ slots') :
    ∃ slot ∈ slots, slot.Follows slot' := by
  induction h with
  | nil => cases hslot'
  | @cons slot _ slots _ hslot _ ih =>
    rcases List.mem_cons.mp hslot' with rfl | hslot'
    · exact ⟨slot, List.mem_cons_self, hslot⟩
    · obtain ⟨slot, hmem, hslot⟩ := ih hslot'
      exact ⟨slot, List.mem_cons_of_mem _ hmem, hslot⟩

/-- If slot by slot follows a bar that is up to date, then the session will hear of all that is
new. -/
theorem Bar.IsUpToDate.isHeard_of_follows {b : Bar ω} (h : b.IsUpToDate) {slots : List (Slot ω)}
    (hslots : List.Forall₂ Slot.Follows b.slots slots) : Bar.IsHeard { b with slots } := by
  have hline : Bar.line { b with slots } = b.line := by
    rw [line, line, map_cached_of_follows hslots]
  refine ⟨?_, fun slot' hslot' hstale => ?_⟩
  · rw [hline]
    exact h.last
  · obtain ⟨slot, hslot, hfollows⟩ := exists_follows_of_mem hslots hslot'
    rcases hfollows.stale hstale with hstale | halarm
    · rw [h.isStale hslot] at hstale
      cases hstale
    · exact halarm

end Follows

theorem follows_input (slot : Slot ω) (now : Moment) (action data : String) :
    slot.Follows (slot.input now action data).state := by
  cases slot with
  | live m => exact Slot.follows_of_go (m.go_input now action data)
  | failed m => exact .refl _

/-- When an action is offered, all slots follow. -/
theorem follows_offer (now : Moment) (target action data : String) (slots : List (Slot ω)) :
    List.Forall₂ Slot.Follows slots (Bar.offer now target action data slots).state := by
  induction slots with
  | nil => exact .nil
  | cons slot rest ih =>
    rw [Bar.offer]
    split
    · exact .cons (.refl slot) ih
    · have hinput := follows_input slot now action data
      split
      · rename_i slot' h
        rw [h] at hinput
        exact .cons hinput ih
      · rename_i slot' r _ h
        rw [h] at hinput
        exact .cons hinput (List.forall₂_same.mpr fun slot _ => .refl slot)

theorem follows_pass (slot : Slot ω) (now : Moment) : slot.Follows (slot.pass now) := by
  cases slot with
  | live m => exact Slot.follows_of_go (m.go_pass now)
  | failed m => exact .refl _

namespace Session

/-- What happens to a session. -/
inductive Event where
  | command (now : Moment) (line : String)
  /-- The file at a path has changed. -/
  | reload (path : String) (file : FileContent) (now : Moment)
  | tick (seconds : Nat) (now : Moment)
  | takeLines

def step (catalog : List (String × Construction ω)) (s : Session ω) : Event → Session ω
  | .command now line => (s.command now line).2
  | .reload path file now => ((s.reload? catalog path file now).map (·.1)).getD s
  | .tick seconds now => s.tick seconds now
  | .takeLines => s.takeLines.2

def after (catalog : List (String × Construction ω)) (s : Session ω) (events : List Event) :
    Session ω := events.foldl (step catalog) s

theorem isUpToDate_present (catalog : List (String × Construction ω)) (watching : Bool) (c : Config)
    (now : Moment) : (present catalog watching c now).1.bar.IsUpToDate :=
  isUpToDate_rest (isUpToDate_draw _).isHeard

/-- A session begins up to date. -/
theorem isUpToDate_start {catalog : List (String × Construction ω)} {path : String}
    {file : FileContent} {now : Moment} {r : Session ω × List Notice}
    (h : start catalog path file now = .ok r) : r.1.bar.IsUpToDate := by
  obtain ⟨⟨c, said⟩, -, h⟩ := bind_eq_ok_iff.mp h
  have hpresent := isUpToDate_present catalog file.isPresent c now
  -- the pair is taken apart before anything is compared, or the session would be run
  simp only at h
  generalize present catalog file.isPresent c now = shown at h hpresent
  cases h
  exact hpresent

/-- A command keeps a session up to date, whatever becomes of it. -/
theorem isUpToDate_command {s : Session ω} (h : s.bar.IsUpToDate) (now : Moment) (line : String) :
    (s.command now line).2.bar.IsUpToDate := by
  rw [command]
  split
  · exact h
  · rename_i c _
    have hrest := isUpToDate_rest
      (s := { s with bar := (s.bar.input now c.target c.action c.data).state })
      (h.isHeard_of_follows (follows_offer now c.target c.action c.data s.bar.slots))
    simp only
    split <;> exact hrest

/-- So does a second that passes. -/
theorem isUpToDate_tick {s : Session ω} (h : s.bar.IsUpToDate) (seconds : Nat) (now : Moment) :
    (s.tick seconds now).bar.IsUpToDate := by
  refine isUpToDate_rest (h.isHeard_of_follows ?_)
  rw [List.forall₂_map_right_iff, List.forall₂_same]
  intro slot _
  split
  · split
    · split
      · exact follows_pass _ now
      · exact .refl _
    · exact follows_pass _ now
  · exact .refl _

/-- So does another configuration, or a file that cannot be loaded. -/
theorem isUpToDate_reload {s : Session ω} (h : s.bar.IsUpToDate)
    (catalog : List (String × Construction ω)) (path : String) (file : FileContent)
    (now : Moment) : (((s.reload? catalog path file now).map (·.1)).getD s).bar.IsUpToDate := by
  rw [reload?]
  split
  · exact h
  · split
    · exact h
    · rename_i c said _
      have hpresent := isUpToDate_present catalog s.watching c now
      generalize present catalog s.watching c now = shown at hpresent ⊢
      exact isUpToDate_foldl_handle (.inl hpresent)

/-- **Every event keeps a session up to date.** -/
theorem isUpToDate_step {s : Session ω} (h : s.bar.IsUpToDate)
    (catalog : List (String × Construction ω)) (event : Event) :
    (s.step catalog event).bar.IsUpToDate := by
  cases event with
  | command now line => exact isUpToDate_command h now line
  | reload path file now => exact isUpToDate_reload h catalog path file now
  | tick seconds now => exact isUpToDate_tick h seconds now
  | takeLines => exact h

/-- After each thing that happened to a session, its bar is up to date. -/
theorem isUpToDate_after {s : Session ω} (h : s.bar.IsUpToDate)
    (catalog : List (String × Construction ω)) (events : List Event) :
    (s.after catalog events).bar.IsUpToDate := by
  induction events generalizing s with
  | nil => exact h
  | cons event events ih => exact ih (isUpToDate_step h catalog event)

end Session

end StatusBar
