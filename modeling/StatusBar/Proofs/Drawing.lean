import StatusBar.Proofs.Host

/-!
# Drawing without a break

The host draws in many steps. When no thread comes between them, they do what `Bar.redraw` does at
once, and the signals that the modules send meanwhile are owed: see `run_redraw`.
-/

namespace StatusBar

variable {ω : Type} [Widget ω]

omit [Widget ω] in
theorem Bar.takeSignals_withLast (b : Bar ω) (last : Option String) :
    Bar.takeSignals { b with last } = (b.takeSignals.1, { b.takeSignals.2 with last }) := rfl

theorem Bar.takeSignals_refresh (b : Bar ω) :
    b.refresh.takeSignals = (b.slots.flatMap fun slot => slot.refresh.takeSignals.1,
      { b with slots := b.slots.map fun slot => slot.refresh.takeSignals.2 }) := by
  simp [takeSignals, refresh, List.flatMap_map, Function.comp_def]

namespace Host

variable (catalog : List (String × Construction ω)) (h : Host ω) {shown : List String}
  {before : List (Slot ω)} (after : List (Slot ω))

omit [Widget ω] in
/-- The host while it reads a slot between others. The signals that the module there has sent are
still owed. -/
def reading (shown : List String) (before after : List (Slot ω)) (p : Reading × Module ω) :
    Host ω :=
  { h with
    bar := { h.bar with slots := before ++ .live p.2.takeSignals.2 :: after }
    task := .drawing shown p.1
    owed := h.owed ++ p.2.signals }

/-- The host takes a reading one step further. -/
theorem run_advance (hlength : before.length = shown.length) (p : Reading × Module ω) :
    Run catalog (h.reading shown before after p)
      (h.reading shown before after (Reading.advance p)) := by
  obtain ⟨r, m⟩ := p
  have hm : (h.reading shown before after (r, m)).bar.slots[shown.length]? =
      some (.live m.takeSignals.2) := by
    simp [reading, ← hlength]
  have hread : Step catalog (h.reading shown before after (r, m)) _ := .read rfl hm
  have hsignals : (r.next m).2.1.signals = m.signals := (Module.fate_next m r).signals
  have hput : (h.reading shown before after (r, m)).put shown.length (r.next m.takeSignals.2).2
      (.drawing shown (r.next m.takeSignals.2).1) =
      h.reading shown before after (Reading.advance (r, m)) := by
    rw [r.next_takeSignals]
    simp [reading, put, Reading.advance, ← hlength, Module.signals_told, Module.takeSignals_told,
      hsignals]
  rw [hput] at hread
  exact .single hread

theorem run_advance_iterate (hlength : before.length = shown.length) (p : Reading × Module ω)
    (n : Nat) :
    Run catalog (h.reading shown before after p)
      (h.reading shown before after (Reading.advance^[n] p)) := by
  induction n with
  | zero => exact .refl
  | succ n ih =>
    rw [Function.iterate_succ_apply']
    exact ih.trans (run_advance catalog h after hlength _)

/-- A slot is read as `Slot.refresh` has it. -/
theorem run_slot (hlength : before.length = shown.length) {slot : Slot ω}
    (hslot : slot.takeSignals.1 = []) :
    Run catalog
      { h with
        bar := { h.bar with slots := before ++ slot :: after }
        task := .drawing shown .looking }
      { h with
        bar := { h.bar with slots := before ++ slot.refresh.takeSignals.2 :: after }
        task := .drawing (shown ++ [slot.refresh.cached]) .looking
        owed := h.owed ++ slot.refresh.takeSignals.1 } := by
  cases slot with
  | live m =>
    have hsignals : m.signals = [] := hslot
    have hmuted : m.takeSignals.2 = m := by rw [Module.takeSignals, ← hsignals]
    have hrun := run_advance_iterate catalog h after hlength (.looking, m) 5
    rw [Reading.advance_content, reading, hsignals, List.append_nil, hmuted] at hrun
    exact hrun.tail (.collect rfl)
  | failed m =>
    have hm : (before ++ Slot.failed m :: after)[shown.length]? = some (.failed m) := by
      simp [← hlength]
    have hnothing : (Slot.failed m : Slot ω).refresh.takeSignals.1 = [] := rfl
    rw [hnothing, List.append_nil]
    exact .head (.readFailed rfl hm) (.single (.collect rfl))

/-- The slots are read one after the other, and their signals are owed in this order. -/
theorem run_slots (hlength : before.length = shown.length)
    (hslots : ∀ slot ∈ after, slot.takeSignals.1 = []) :
    Run catalog
      { h with
        bar := { h.bar with slots := before ++ after }
        task := .drawing shown .looking }
      { h with
        bar := { h.bar with slots := before ++ after.map fun slot => slot.refresh.takeSignals.2 }
        task := .drawing (shown ++ after.map fun slot => slot.refresh.cached) .looking
        owed := h.owed ++ after.flatMap fun slot => slot.refresh.takeSignals.1 } := by
  induction after generalizing h before shown with
  | nil =>
    simp only [List.map_nil, List.append_nil, List.flatMap_nil]
    exact .refl
  | cons slot after ih =>
    have hslot := run_slot catalog h after hlength (hslots slot List.mem_cons_self)
    -- the slot just read joins those before it
    have hlength' : (before ++ [slot.refresh.takeSignals.2]).length =
        (shown ++ [slot.refresh.cached]).length := by simp [hlength]
    have hrest := ih { h with owed := h.owed ++ slot.refresh.takeSignals.1 } hlength'
      fun slot hs => hslots slot (List.mem_cons_of_mem _ hs)
    simp only [List.append_assoc, List.singleton_append] at hrest
    simp only [List.map_cons, List.flatMap_cons]
    exact hslot.trans hrest

/-- **Drawing without a break is `Bar.redraw`.** -/
theorem run_redraw (hslots : ∀ slot ∈ h.bar.slots, slot.takeSignals.1 = []) :
    Run catalog { h with task := .drawing [] .looking }
      { h with
        bar := h.bar.redraw.2.takeSignals.2
        task := .idle
        owed := h.owed ++ h.bar.redraw.2.takeSignals.1
        lines := h.lines ++ h.bar.redraw.1.toList } := by
  have hnone : ([] : List (Slot ω)).length = ([] : List String).length := rfl
  have hrun := run_slots catalog h h.bar.slots hnone hslots
  -- the host when all slots have been read and the line is still to be printed
  let drawn : Host ω := { h with
    bar := { h.bar with slots := h.bar.slots.map fun slot => slot.refresh.takeSignals.2 }
    task := .drawing (h.bar.slots.map fun slot => slot.refresh.cached) .looking
    owed := h.owed ++ h.bar.slots.flatMap fun slot => slot.refresh.takeSignals.1 }
  have hprint : Step catalog drawn _ := .print rfl (by simp [drawn])
  have hline : h.bar.separator.intercalate
      ((h.bar.slots.map fun slot => slot.refresh.cached).filter (!·.isEmpty)) =
      h.bar.refresh.line := by
    simp [Bar.line, Bar.refresh, Function.comp_def]
  rw [hline, print] at hprint
  refine hrun.tail ?_
  rw [Bar.redraw]
  by_cases hsame : h.bar.refresh.last = some h.bar.refresh.line
  · rw [if_pos hsame, Bar.takeSignals_refresh]
    rw [if_pos (show h.bar.last = _ from hsame)] at hprint
    simpa using hprint
  · rw [if_neg hsame, Bar.takeSignals_withLast, Bar.takeSignals_refresh]
    rw [if_neg (show ¬ h.bar.last = _ from hsame)] at hprint
    exact hprint

end Host

end StatusBar
