import StatusBar.Proofs.Host
import StatusBar.Widget.Text

/-!
# No redraw is lost

A broadcast marks a module and then sends a signal, and the host takes the marks away one after the
other while it draws. The marks and the signals meet in one invariant (`Host.Meets`): a module that
has something new to show, and that the host does not come to any more in its present job, has a
signal under way. So when there is no signal left, there is nothing new to show, and the last line
printed is the line of the bar (`no_redraw_lost`).
-/

namespace StatusBar

open Clock (Moment)
open Relation (ReflTransGen)

variable {ω : Type}

namespace Module

/-- What is shown stays, and if there comes to be something new to show, then an alarm is owed. -/
structure Keeps (m : Module ω) (r : Module ω × Option Signal) : Prop where
  cached : r.1.cached = m.cached
  stale : r.1.isStale = true → m.isStale = true ∨ ∃ s ∈ r.2, s.isAlarm = true

/-- Nothing comes to be new while cache, mark and state stay. -/
theorem keeps_of_eq {m : Module ω} {r : Module ω × Option Signal} (hcached : r.1.cached = m.cached)
    (hchanged : r.1.changed = m.changed) (hstate : r.1.state = m.state) : m.Keeps r := by
  refine ⟨hcached, fun hstale => .inl ?_⟩
  rwa [isStale, hchanged, hstate] at hstale

/-- A module that is halted has nothing new to show. -/
theorem isStale_of_act_halt {m : Module ω} {e : ModuleError}
    (h : (m.act (.halt e)).1.isStale = true) : m.isStale = true := by
  cases hhalt : m.control.halt? e.message with
  | none => rwa [act, hhalt] at h
  | some control =>
    rw [act, hhalt] at h
    unfold Control.halt? at hhalt
    split at hhalt
    · cases hhalt
    · cases hhalt
      simp [isStale, state] at h

/-- All that threads do leaves what is shown, and an alarm is owed if there comes to be something
new to show. -/
theorem keeps_act (m : Module ω) (a : Act ω) : m.Keeps (m.act a) := by
  refine ⟨cached_act m a, fun hstale => ?_⟩
  cases a with
  | work | wake => exact .inl hstale
  | mark => exact .inr ⟨.changed m.name, rfl, rfl⟩
  | halt e => exact .inl (isStale_of_act_halt hstale)

theorem isStale_render [Widget ω] (m : Module ω) : m.render.module.isStale = m.isStale := by
  unfold render
  split <;> rfl

end Module

namespace Reading

/-- Whether the call has seen to the mark, so that only a broadcast can set it again. -/
def hasLooked : Reading → Bool
  | looking | waiting => false
  | claimed | drawn _ | returning | done _ => true

variable [Widget ω]

/-- A call that has seen to the mark leaves a module stale only if it was so before. -/
theorem isStale_next {m : Module ω} {r : Reading} (hlooked : (r.next m).1.hasLooked = true)
    (hstale : (r.next m).2.1.isStale = true) : r.hasLooked = true ∧ m.isStale = true := by
  cases r with
  | looking =>
    -- either the call waits, or there is nothing new
    cases h : m.isStale with
    | true => simp [next, h, hasLooked] at hlooked
    | false => simp [next, h] at hstale
  | waiting =>
    cases h : m.changed <;> simp [next, Module.claim?, Module.isStale, h] at hstale
  | claimed => exact ⟨rfl, m.isStale_render ▸ hstale⟩
  | drawn text =>
    cases text with
    | ok text => exact ⟨rfl, hstale⟩
    | error e => exact ⟨rfl, Module.isStale_of_act_halt hstale⟩
  | returning => exact ⟨rfl, hstale⟩
  | done text => exact ⟨rfl, hstale⟩

/-- A call returns what is shown from then on. -/
theorem cached_of_next_eq_done {m : Module ω} {r : Reading}
    (hdone : ∀ text, r = .done text → m.cached = text) {text : String}
    (h : (r.next m).1 = .done text) : (r.next m).2.1.cached = text := by
  cases r with
  | looking =>
    cases hs : m.isStale with
    | true => simp [next, hs] at h
    | false => simpa [next, hs] using h
  | waiting =>
    cases hc : m.claim? with
    | some m' => simp [next, hc] at h
    | none => simpa [next, hc] using h
  | claimed => cases h
  | drawn text =>
    cases text with
    | ok text =>
      cases h
      rfl
    | error e => cases h
  | returning =>
    cases h
    rfl
  | done text => exact hdone _ h

end Reading

namespace Host

/-! ### The invariant -/

/-- Whether a signal is under way for which the host will draw. -/
def Alarmed (h : Host ω) : Prop := ∃ s ∈ h.queue ++ h.owed, s.isAlarm = true

/-- If there is something new to show in the first `n` slots, then the host will hear of it. -/
def Hears (h : Host ω) (n : Nat) : Prop :=
  ∀ j slot, j < n → h.bar.slots[j]? = some slot → slot.isStale = true → h.Alarmed

/-- What the host has achieved when it is idle. -/
structure HasDrawn (h : Host ω) : Prop where
  last : h.bar.last = some h.bar.line
  lines : h.lines.getLast? = some h.bar.line
  hears : h.Hears h.bar.slots.length

/-- What the host has achieved in the midst of drawing. -/
structure Draws (h : Host ω) (shown : List String) (r : Reading) : Prop where
  lines : h.bar.last = none ∨ h.lines.getLast? = h.bar.last
  taken : shown = (h.bar.slots.map Slot.cached).take shown.length
  hears : h.Hears shown.length
  looked : r.hasLooked = true → h.Hears (shown.length + 1)
  done : ∀ text, r = .done text → (h.bar.slots.map Slot.cached)[shown.length]? = some text

/-- What is true while the host is about something. -/
def Meets (h : Host ω) : Task → Prop
  | .idle | .offering _ _ | .handing _ _ | .telling _ => h.HasDrawn
  | .drawing shown r => h.Draws shown r
  | .starting _ => h.bar.last = none
  | .stopping _ _ | .joining _ _ _ | .crashed => True

/-! ### A change in one slot -/

section Put

variable {h : Host ω} {i : Nat} {m : Module ω} {r : Module ω × Option Signal} {task : Task}

theorem alarmed_put (ha : h.Alarmed) : (h.put i r task).Alarmed := by
  obtain ⟨s, hs, halarm⟩ := ha
  refine ⟨s, ?_, halarm⟩
  show s ∈ h.queue ++ (h.owed ++ r.2.toList)
  rw [← List.append_assoc]
  exact List.mem_append_left _ hs

theorem alarmed_put_of_owed {s : Signal} (hs : s ∈ r.2) (halarm : s.isAlarm = true) :
    (h.put i r task).Alarmed := by
  refine ⟨s, ?_, halarm⟩
  show s ∈ h.queue ++ (h.owed ++ r.2.toList)
  simp [Option.mem_def.mp hs]

/-- After a change in a slot the host hears of all that is new, if there is an alarm for that in
this slot. -/
theorem hears_put {n : Nat} (hh : h.Hears n)
    (hstale : i < n → r.1.isStale = true → (h.put i r task).Alarmed) :
    (h.put i r task).Hears n := by
  intro j slot hj hslot hs
  change (h.bar.slots.set i (.live r.1))[j]? = some slot at hslot
  rw [List.getElem?_set] at hslot
  split at hslot
  · rename_i hij
    subst hij
    split at hslot
    · cases hslot
      exact hstale hj hs
    · cases hslot
  · exact alarmed_put (hh j slot hj hslot hs)

theorem getElem?_put_self (hm : h.bar.slots[i]? = some (.live m)) :
    (h.put i r task).bar.slots[i]? = some (.live r.1) := by
  obtain ⟨hi, -⟩ := List.getElem?_eq_some_iff.mp hm
  exact List.getElem?_set_self hi

theorem map_cached_put (hm : h.bar.slots[i]? = some (.live m)) (hcached : r.1.cached = m.cached) :
    (h.put i r task).bar.slots.map Slot.cached = h.bar.slots.map Slot.cached := by
  show (h.bar.slots.set i (.live r.1)).map Slot.cached = _
  obtain ⟨hi, hlive⟩ := List.getElem?_eq_some_iff.mp hm
  have hi' : i < (h.bar.slots.map Slot.cached).length := by simpa using hi
  have hsame : Slot.cached (.live r.1) = (h.bar.slots.map Slot.cached)[i] := by
    rw [List.getElem_map, hlive]
    exact hcached
  rw [List.map_set, hsame, List.set_getElem_self]

/-- A change that keeps the content keeps what the host has achieved. -/
theorem meets_put (job : Task) (hm : h.bar.slots[i]? = some (.live m)) (hkeeps : m.Keeps r)
    (hjob : h.Meets job) : (h.put i r task).Meets job := by
  have hmap : (h.put i r task).bar.slots.map Slot.cached = h.bar.slots.map Slot.cached :=
    map_cached_put hm hkeeps.cached
  have hline : (h.put i r task).bar.line = h.bar.line := by
    rw [Bar.line, hmap]
    rfl
  have hlength : (h.put i r task).bar.slots.length = h.bar.slots.length := List.length_set
  have hhears {n : Nat} (hh : h.Hears n) : (h.put i r task).Hears n := by
    refine hears_put hh fun hi hstale => ?_
    rcases hkeeps.stale hstale with hstale | ⟨s, hs, halarm⟩
    · exact alarmed_put (hh i _ hi hm hstale)
    · exact alarmed_put_of_owed hs halarm
  have hdrawn (hd : h.HasDrawn) : (h.put i r task).HasDrawn := by
    refine ⟨?_, ?_, ?_⟩
    · rw [hline]
      exact hd.last
    · rw [hline]
      exact hd.lines
    · rw [hlength]
      exact hhears hd.hears
  cases job with
  | idle | offering | handing | telling => exact hdrawn hjob
  | drawing shown reading =>
    refine ⟨hjob.lines, ?_, hhears hjob.hears, fun hl => hhears (hjob.looked hl), ?_⟩
    · rw [hmap]
      exact hjob.taken
    · rw [hmap]
      exact hjob.done
  | starting => exact hjob
  | stopping | joining | crashed => trivial

end Put

/-! ### The steps -/

/-- What the host has achieved does not depend on the order of the signals. -/
theorem meets_of_alarmed {h h' : Host ω} (job : Task) (hbar : h'.bar = h.bar)
    (hlines : h'.lines = h.lines) (halarmed : h.Alarmed → h'.Alarmed) (hjob : h.Meets job) :
    h'.Meets job := by
  have hhears {n : Nat} (hh : h.Hears n) : h'.Hears n := by
    intro j slot hj hslot hs
    rw [hbar] at hslot
    exact halarmed (hh j slot hj hslot hs)
  have hdrawn (hd : h.HasDrawn) : h'.HasDrawn := by
    refine ⟨?_, ?_, ?_⟩
    · rw [hbar]
      exact hd.last
    · rw [hbar, hlines]
      exact hd.lines
    · rw [hbar]
      exact hhears hd.hears
  cases job with
  | idle | offering | handing | telling => exact hdrawn hjob
  | drawing shown reading =>
    refine ⟨?_, ?_, hhears hjob.hears, fun hl => hhears (hjob.looked hl), ?_⟩
    · rw [hbar, hlines]
      exact hjob.lines
    · rw [hbar]
      exact hjob.taken
    · rw [hbar]
      exact hjob.done
  | starting =>
    show h'.bar.last = none
    rw [hbar]
    exact hjob
  | stopping | joining | crashed => trivial

/-- At the beginning of a drawing nothing has to be achieved. -/
theorem draws_nothing {h : Host ω} (hlines : h.bar.last = none ∨ h.lines.getLast? = h.bar.last) :
    h.Draws [] .looking where
  lines := hlines
  taken := rfl
  hears _ _ hj := absurd hj (Nat.not_lt_zero _)
  looked hl := by cases hl
  done _ hd := by cases hd

theorem HasDrawn.draws {h : Host ω} (hd : h.HasDrawn) : h.Draws [] .looking :=
  draws_nothing (.inr (hd.lines.trans hd.last.symm))

theorem alarmed_of_subset {h h' : Host ω} (hsub : ∀ s ∈ h.queue ++ h.owed, s ∈ h'.queue ++ h'.owed)
    (ha : h.Alarmed) : h'.Alarmed := by
  obtain ⟨s, hs, halarm⟩ := ha
  exact ⟨s, hsub s hs, halarm⟩

/-- A signal that the host need not draw for is taken from the queue. -/
theorem alarmed_of_cons {h : Host ω} {s : Signal} {rest : List Signal}
    (hqueue : h.queue = s :: rest) (hs : s.isAlarm = false) {task : Task} (ha : h.Alarmed) :
    Alarmed { h with queue := rest, task } := by
  obtain ⟨s', hs', halarm⟩ := ha
  rw [hqueue, List.cons_append] at hs'
  rcases List.mem_cons.mp hs' with rfl | hs'
  · rw [hs] at halarm
    cases halarm
  · exact ⟨s', hs', halarm⟩

theorem task_print (h : Host ω) (line : String) : (h.print line).task = .idle := by
  unfold print
  split <;> rfl

section Drawing

variable {h : Host ω} {shown : List String}

/-- What was read of a slot is collected. -/
theorem Draws.collect {text : String} (hd : h.Draws shown (.done text)) :
    h.Draws (shown ++ [text]) .looking where
  lines := hd.lines
  taken := by
    have htext := hd.done text rfl
    rw [List.length_append, List.length_singleton, List.take_add_one, htext, ← hd.taken]
    rfl
  hears := by
    rw [List.length_append]
    exact hd.looked rfl
  looked hl := by cases hl
  done _ hdone := by cases hdone

/-- A slot without a module has nothing new to show. -/
theorem Draws.readFailed {m : FailedModule} (hd : h.Draws shown .looking)
    (hm : h.bar.slots[shown.length]? = some (.failed m)) :
    h.Draws shown (.done (Slot.failed m : Slot ω).cached) where
  lines := hd.lines
  taken := hd.taken
  hears := hd.hears
  looked _ := by
    intro j slot hj hslot hs
    rcases Nat.lt_succ_iff_lt_or_eq.mp hj with hj | rfl
    · exact hd.hears j slot hj hslot hs
    · rw [hm] at hslot
      cases hslot
      cases hs
  done text hdone := by
    cases hdone
    rw [List.getElem?_map, hm]
    rfl

/-- All slots have been read. -/
theorem Draws.print (hd : h.Draws shown .looking) (hlength : h.bar.slots.length = shown.length) :
    (h.print (h.bar.separator.intercalate (shown.filter (!·.isEmpty)))).HasDrawn := by
  have hshown : shown = h.bar.slots.map Slot.cached := by
    have htaken := hd.taken
    rwa [← hlength, List.take_of_length_le (by simp)] at htaken
  have hline : h.bar.separator.intercalate (shown.filter (!·.isEmpty)) = h.bar.line := by
    rw [Bar.line, hshown]
  have hhears : h.Hears h.bar.slots.length := hlength ▸ hd.hears
  rw [hline, Host.print]
  split
  · rename_i hlast
    refine ⟨hlast, ?_, hhears⟩
    rcases hd.lines with hnone | hlines
    · rw [hnone] at hlast
      cases hlast
    · exact hlines.trans hlast
  · exact ⟨rfl, List.getLast?_concat .., hhears⟩

variable [Widget ω]

/-- A slot is read. -/
theorem Draws.read {r : Reading} {m : Module ω} {task : Task} (hd : h.Draws shown r)
    (hm : h.bar.slots[shown.length]? = some (.live m)) :
    (h.put shown.length (r.next m).2 task).Draws shown (r.next m).1 where
  lines := hd.lines
  taken := by
    show shown = ((h.bar.slots.set _ _).map Slot.cached).take shown.length
    rw [List.map_set, List.take_set_of_le (Nat.le_refl _)]
    exact hd.taken
  hears := hears_put hd.hears fun hlt => absurd hlt (Nat.lt_irrefl _)
  looked hl := by
    intro j slot hj hslot hs
    rcases Nat.lt_succ_iff_lt_or_eq.mp hj with hj | rfl
    · have hears : (h.put shown.length (r.next m).2 task).Hears shown.length :=
        hears_put hd.hears fun hlt => absurd hlt (Nat.lt_irrefl _)
      exact hears j slot hj hslot hs
    · -- the slot being read: nobody but a thread sets the mark once it has been seen to
      rw [getElem?_put_self hm] at hslot
      cases hslot
      obtain ⟨hlooked, hstale⟩ := Reading.isStale_next hl hs
      exact alarmed_put (hd.looked hlooked _ _ (Nat.lt_succ_self _) hm hstale)
  done text hdone := by
    have hcached : ∀ text, r = .done text → m.cached = text := by
      intro text hr
      have htext := hd.done text hr
      rw [List.getElem?_map, hm] at htext
      exact Option.some.inj htext
    rw [List.getElem?_map, getElem?_put_self hm]
    exact congrArg some (Reading.cached_of_next_eq_done hcached hdone)

end Drawing

theorem meets_afterHanding {h : Host ω} (hd : h.HasDrawn) (c : Command) (i : Nat)
    (result : Except Panic Bool) : h.Meets (afterHanding c i result) := by
  rcases result with p | _ | _
  · trivial
  · exact hd
  · exact hd

variable [Widget ω] {catalog : List (String × Construction ω)}

/-- Every step keeps what the host has to achieve. -/
theorem meets_step {h h' : Host ω} (hjob : h.Meets h.task) (hstep : Step catalog h h') :
    h'.Meets h'.task := by
  cases hstep with
  -- the threads
  | act a hm _ => exact meets_put h.task hm (Module.keeps_act _ a) hjob
  | note main workers hm _ => exact meets_put h.task hm (Module.keeps_of_eq rfl rfl rfl) hjob
  | send before after howed =>
    refine meets_of_alarmed (h := h) h.task rfl rfl (alarmed_of_subset fun s hs => ?_) hjob
    simp only [howed, List.mem_append, List.mem_cons] at hs ⊢
    grind
  | stray s =>
    refine meets_of_alarmed (h := h) h.task rfl rfl (alarmed_of_subset fun s hs => ?_) hjob
    simp only [List.mem_append] at hs ⊢
    grind
  -- the host draws
  | @receive s _ htask hqueue =>
    rw [htask] at hjob
    show Meets _ (if s.isAlarm then _ else _)
    cases hs : s.isAlarm with
    | true =>
      have hdraws : h.Draws [] .looking := HasDrawn.draws hjob
      exact draws_nothing hdraws.lines
    | false =>
      exact meets_of_alarmed (h := h) .idle rfl rfl (alarmed_of_cons hqueue hs) hjob
  | read htask hm =>
    rw [htask] at hjob
    exact Draws.read hjob hm
  | collect htask =>
    rw [htask] at hjob
    have hcollect := Draws.collect hjob
    exact ⟨hcollect.lines, hcollect.taken, hcollect.hears, hcollect.looked, hcollect.done⟩
  | readFailed htask hm =>
    rw [htask] at hjob
    have hread := Draws.readFailed hjob hm
    exact ⟨hread.lines, hread.taken, hread.hears, hread.looked, hread.done⟩
  | print htask hlength =>
    rw [htask] at hjob
    have hprint := Draws.print hjob hlength
    rw [task_print]
    exact hprint
  -- the host hands over a command
  | command line htask _ =>
    rw [htask] at hjob
    exact ⟨hjob.last, hjob.lines, hjob.hears⟩
  | @offer c i slot htask _ =>
    rw [htask] at hjob
    show Meets _ (if slot.accepts c.target then _ else _)
    split <;> exact ⟨hjob.last, hjob.lines, hjob.hears⟩
  | giveUp htask =>
    rw [htask] at hjob
    exact ⟨hjob.last, hjob.lines, hjob.hears⟩
  | @hand c i m now htask hm =>
    rw [htask] at hjob
    have hkeeps : m.Keeps ((m.handle now c.action c.data).state, none) :=
      Module.keeps_of_eq rfl rfl rfl
    exact meets_afterHanding (meets_put .idle hm hkeeps hjob) c i _
  | tell htask hm =>
    rw [htask] at hjob
    exact meets_put .idle hm (Module.keeps_act _ .mark) hjob
  -- the host turns to a new configuration: nothing has been achieved for the new bar yet
  | build _ => exact rfl
  | start main htask hm =>
    rw [htask] at hjob
    exact hjob
  | startFailed htask _ =>
    rw [htask] at hjob
    exact hjob
  | present htask =>
    rw [htask] at hjob
    exact draws_nothing (.inl hjob)
  | reload | cancel | join | stopFailed => trivial

/-- **Whatever the host is about, it meets what is asked of this**, after any run. -/
theorem meets_run {h h' : Host ω} (hjob : h.Meets h.task) (hrun : Run catalog h h') :
    h'.Meets h'.task := by
  induction hrun with
  | refl => exact hjob
  | tail _ hstep ih => exact meets_step ih hstep

omit [Widget ω] in
/-- When no signal is under way, all has been drawn. -/
theorem HasDrawn.isUpToDate {h : Host ω} (hd : h.HasDrawn) (hqueue : h.queue = [])
    (howed : h.owed = []) : h.bar.IsUpToDate := by
  refine Bar.isUpToDate_of_isStale (fun slot hslot => ?_) hd.last
  obtain ⟨j, hj, rfl⟩ := List.getElem_of_mem hslot
  cases hstale : h.bar.slots[j].isStale with
  | false => rfl
  | true =>
    obtain ⟨s, hs, -⟩ := hd.hears j _ hj (List.getElem?_eq_getElem hj) hstale
    rw [hqueue, howed] at hs
    cases hs

end Host

/-- **No redraw is lost.** -/
theorem no_redraw_lost [Widget ω] (catalog : List (String × Construction ω)) :
    (∀ (c : Config) (h : Host ω), Host.Run catalog (.init catalog c) h →
      h.task = .idle → h.queue = [] → h.owed = [] →
      h.bar.IsUpToDate ∧ h.lines.getLast? = some h.bar.line) ∧
    -- in a session the events come one after the other
    ∀ (path : String) (file : FileContent) (now : Moment) (r : Session ω × List Notice),
      Session.start catalog path file now = .ok r →
      ∀ events, (r.1.after catalog events).bar.IsUpToDate := by
  refine ⟨fun c h hrun htask hqueue howed => ?_, fun path file now r hstart events => ?_⟩
  · have hmeets := Host.meets_run (h := .init catalog c) rfl hrun
    rw [htask] at hmeets
    have hdrawn : h.HasDrawn := hmeets
    exact ⟨hdrawn.isUpToDate hqueue howed, hdrawn.lines⟩
  · exact Session.isUpToDate_after (Session.isUpToDate_start hstart) catalog events

/-- The only module of a bar fails while it is drawn for the first time. The host hears of it, draws
again, and prints no other line. -/
theorem no_redraw_lost_failing :
    let construct : Construction TextWidget := fun _ _ => .ok (⟨{ text := "on" }⟩, {})
    let catalog := [("label", construct)]
    let c : Config := { root := [("modules", .array [.string "a"]),
      ("module", .table [("a", .table [("type", .string "label")])])] }
    (∃ h, Host.Run catalog (.init catalog c) h ∧ h.task = .idle ∧ h.queue = [] ∧ h.owed = [] ∧
      h.bar.IsUpToDate ∧ h.lines = [""] ∧ ∃ m, h.bar.slots = [.live m] ∧ m.state = .halted) ∧
    ∃ r, Session.start catalog "bar.toml" .missing default = .ok r ∧
      (r.1.after catalog [.tick 1 default]).bar.IsUpToDate := by
  intro construct catalog c
  have hevents : c.getOr .boolean (Module.fullName "a") "handle-events" true = .ok true := by cbv
  have hbar : c.barConfig = .ok { modules := ["a"] } := by cbv
  have hkind : c.get .string (Module.fullName "a") "type" = .ok "label" := by cbv
  have htable : c.hasTable (Module.fullName "a") = true := by decide +kernel
  let m (settings : BarSettings) : Module TextWidget :=
    { rawName := "a", formats := {}, widget := ⟨{ text := "on" }⟩, markup := .forBar settings }
  have hnew (settings : BarSettings) : Module.new construct c settings "a" = .ok (m settings) := by
    unfold Module.new
    simp only [hevents]
    rfl
  let settings := (BarSettings.ofConfig c).toOption.getD default
  have hinit : Host.init catalog c =
      { bar := { slots := [.live (m settings)], separator := settings.separator },
        task := .starting 0 } := by
    simp [Host.init, settings, Bar.build, hbar, Slot.create, Slot.build, hkind, htable, catalog,
      Except.toOption, hnew]
  have hrun : ∃ h, Host.Run catalog (.init catalog c) h ∧ h.task = .idle ∧ h.queue = [] ∧
      h.owed = [] ∧ h.lines = [""] ∧ ∃ m, h.bar.slots = [.live m] ∧ m.state = .halted := by
    rw [hinit]
    refine ⟨_, .head (.start none rfl rfl) <| .head (.present rfl) <|
      -- the module looks, waits, claims, fails and returns
      .head (.read rfl rfl) <| .head (.read rfl rfl) <| .head (.read rfl rfl) <|
      .head (.read rfl rfl) <| .head (.read rfl rfl) <| .head (.collect rfl) <|
      .head (.print rfl rfl) <|
      -- the host hears of the halt, and draws again
      .head (.send [] [] rfl) <| .head (.receive rfl rfl) <|
      .head (.read rfl rfl) <| .head (.collect rfl) <| .single (.print rfl rfl), ?_⟩
    exact ⟨rfl, rfl, rfl, rfl, _, rfl, rfl⟩
  obtain ⟨h, hrun, htask, hqueue, howed, hlines, hslots⟩ := hrun
  obtain ⟨hupToDate, -⟩ := (no_redraw_lost catalog).1 c h hrun htask hqueue howed
  exact ⟨⟨h, hrun, htask, hqueue, howed, hupToDate, hlines, hslots⟩, _, rfl,
    (no_redraw_lost catalog).2 "bar.toml" .missing default _ rfl _⟩

end StatusBar
