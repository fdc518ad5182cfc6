import StatusBar.Proofs.Content
import StatusBar.Proofs.Deeds
import StatusBar.Widget.Clock

/-!
# Schedules

What the main thread of a module does follows the schedule of its widget, whatever the widget
answers and whatever others do between the steps (`main_thread_follows_schedule`).

Two things are added here to the counts. When the module does not run any more, nothing new begins
(`Run.deeds_of_not_running`). And taken without a break, the steps of the thread are those of
`Module.begin` and `Module.pass` (`comesTo_begin`, `comesTo_pass`).
-/

namespace StatusBar

open Clock (Moment)
open Relation (ReflTransGen)

/-! ### Turns -/

namespace Module

variable {ω : Type} [Widget ω] {m : Module ω} {now : Moment}

theorem pass_of_not_running (h : m.isRunning = false) : m.pass now = { m with main := none } := by
  simp [pass, h]

theorem pass_interval (h : m.isRunning = true) {n : Nat} (hmain : m.main = some (.interval n)) :
    m.pass now = m.refreshWidget now := by
  simp [pass, h, hmain]

/-- In a loop with events, a pass looks for one and refreshes if there was one. -/
theorem pass_event (h : m.isRunning = true) {n : Nat} (hmain : m.main = some (.event n)) :
    m.pass now = match Widget.hasEvent m.widget with
      | ⟨widget, .ok true⟩ => { m with widget }.refreshWidget now
      | ⟨widget, .ok false⟩ => { m with widget }
      | ⟨widget, .error p⟩ => { m with widget }.abandon (.panic p) := by
  rcases hevent : Widget.hasEvent m.widget with ⟨widget, p | _ | _⟩ <;>
    simp [pass, h, hmain, hevent]

end Module

namespace MainThread

variable {ω : Type}

/-! ### When the module does not run any more -/

/-- Whether the thread is between the uses it makes of the widget. -/
def Stage.isIdle : Stage → Bool
  | .checking | .pausing | .sleeping _ _ | .waking | .ended => true
  | _ => false

theorem deeds_goTo (t : MainThread ω) (stage : Stage) : (t.goTo stage).deeds = t.deeds := by
  unfold goTo
  split
  · simp [deeds]
  · rfl

theorem deeds_does (t : MainThread ω) (m : Module ω) (d : Deed) :
    (t.does m d).deeds = t.deeds ++ [d] := by
  simp [deeds, does]

theorem stage_goTo (t : MainThread ω) (stage : Stage) : (t.goTo stage).stage = stage := by
  unfold goTo
  split <;> rfl

theorem module_goTo (t : MainThread ω) (stage : Stage) : (t.goTo stage).module = t.module := by
  unfold goTo
  split <;> rfl

variable [Widget ω]

/-- A step in which no iteration begins, and in which an idle thread does nothing and stays
idle. -/
inductive Fades (t t' : MainThread ω) : Prop where
  | still : t'.deeds = t.deeds → (t.stage.isIdle = true → t'.stage.isIdle = true) → Fades t t'
  | busy (d : Deed) : t.stage.isIdle = false → d.isBegun = false → t'.deeds = t.deeds ++ [d] →
      Fades t t'

omit [Widget ω] in
theorem fades_does {t : MainThread ω} (hstage : t.stage.isIdle = false) (m : Module ω) {d : Deed}
    (hd : d.isBegun = false) (stage : Stage) : t.Fades ((t.does m d).goTo stage) := by
  apply Fades.busy d hstage hd
  rw [deeds_goTo, deeds_does]

/-- When the module does not run, every step of the thread lets it fade. -/
theorem Own.fades {t t' : MainThread ω} (h : Own t t') (hrunning : t.module.isRunning = false) :
    t.Fades t' := by
  cases h with
  | unscheduled hstage _ =>
    apply Fades.still (deeds_goTo t _)
    rw [hstage]
    exact nofun
  | once hstage _ | loop hstage _ _ =>
    refine .still rfl ?_
    rw [hstage]
    exact nofun
  | enter _ _ hruns | goOn _ hruns =>
    rw [hrunning] at hruns
    cases hruns
  | leave _ _ | giveUp _ _ => exact .still rfl fun _ => rfl
  | lieDown clock _ _ => exact .still (deeds_goTo t _) fun _ => rfl
  | @getUp s _ _ clock _ _ _ =>
    apply Fades.still (deeds_goTo t _)
    rw [stage_goTo]
    cases s <;> exact fun _ => rfl
  | look hstage _ | lookFailed hstage _ | update now hstage _ _ | updateFailed now hstage _
  | tell hstage _ | fail hstage =>
    apply fades_does
    · rw [hstage]
      rfl
    · rfl

/-- A step of the thread leaves the state alone or halts the module. -/
theorem Own.state {t t' : MainThread ω} (h : Own t t') :
    t'.module.state = t.module.state ∨ t'.module.state = .halted := by
  have habandon (f : Failure) : (t.module.abandon f).state = t.module.state ∨
      (t.module.abandon f).state = .halted := (Module.go_abandon t.module f).state
  cases h with
  | unscheduled | once | loop | leave | giveUp => exact .inl rfl
  | enter | lieDown | getUp | goOn | look | lookFailed | update | updateFailed | tell =>
    rw [module_goTo]
    exact .inl rfl
  | @fail f hstage =>
    rw [module_goTo]
    exact habandon f

/-- A module that does not run does not run again. -/
theorem Step.state_ne_running {t t' : MainThread ω} (h : Step t t')
    (hrunning : t.module.state ≠ .running) : t'.module.state ≠ .running := by
  cases h with
  | own h =>
    rcases h.state with hstate | hstate
    · rwa [hstate]
    · rw [hstate]
      exact nofun
  | others h =>
    have hdrifts := h.drifts
    unfold Module.state at hrunning ⊢
    cases hdrifts with
    | keep hstate _ => rwa [hstate]
    | cancel hstate _ => exact absurd hstate hrunning
    | discard _ hstate | finish _ _ hstate | halt _ hstate =>
      rw [hstate]
      exact nofun

/-- When the module does not run any more, no iteration begins. If the thread is idle then, it does
nothing at all. -/
theorem Run.deeds_of_not_running {t t' : MainThread ω} (h : Run t t')
    (hrunning : t.module.state ≠ .running) :
    t'.count Deed.isBegun = t.count Deed.isBegun ∧
      (t.stage.isIdle = true → t'.deeds = t.deeds) := by
  have hkeep : t'.module.state ≠ .running ∧ t'.count Deed.isBegun = t.count Deed.isBegun ∧
      (t.stage.isIdle = true → t'.deeds = t.deeds ∧ t'.stage.isIdle = true) := by
    induction h with
    | refl => exact ⟨hrunning, rfl, fun hidle => ⟨rfl, hidle⟩⟩
    | @tail t₁ t₂ _ hstep ih =>
      obtain ⟨hstate, hcount, hidle⟩ := ih
      refine ⟨hstep.state_ne_running hstate, ?_⟩
      cases hstep with
      | own hstep =>
        have hnot : t₁.module.isRunning = false := by
          simpa [Module.isRunning, Control.isRunning, Module.state] using hstate
        cases hstep.fades hnot with
        | still hdeeds hstays =>
          refine ⟨?_, fun hstart => ?_⟩
          · rw [← hcount, count, count, hdeeds]
          · obtain ⟨hsame, hstage⟩ := hidle hstart
            exact ⟨hdeeds.trans hsame, hstays hstage⟩
        | busy d hbusy hbegun hdeeds =>
          refine ⟨?_, fun hstart => ?_⟩
          · rw [← hcount, count, count, hdeeds, List.countP_append]
            simp [hbegun]
          · rw [(hidle hstart).2] at hbusy
            cases hbusy
      | others hstep =>
        rw [hstep.frame.1]
        exact ⟨hcount, hidle⟩
  exact ⟨hkeep.2.1, fun hidle => (hkeep.2.2 hidle).1⟩

theorem Own.stage_ne_ended {t t' : MainThread ω} (h : Own t t') : t.stage ≠ .ended := by
  cases h with
  | unscheduled hstage | once hstage | loop hstage | enter hstage | leave hstage
  | lieDown _ hstage | getUp _ hstage | goOn hstage | giveUp hstage | look hstage
  | lookFailed hstage | update _ hstage | updateFailed _ hstage | tell hstage | fail hstage =>
    rw [hstage]
    exact nofun

/-- A thread that has ended does nothing more. -/
theorem Run.deeds_of_ended {t t' : MainThread ω} (h : Run t t') (hended : t.stage = .ended) :
    t'.stage = .ended ∧ t'.deeds = t.deeds := by
  induction h with
  | refl => exact ⟨hended, rfl⟩
  | tail _ hstep ih =>
    obtain ⟨hstage, hdeeds⟩ := ih
    cases hstep with
    | own hstep => exact absurd hstage hstep.stage_ne_ended
    | others hstep =>
      rw [hstep.frame.1]
      exact ⟨hstage, hdeeds⟩

/-! ### The thread left alone -/

/-- Whether the thread waits for somebody or something. -/
def Stage.isRest : Stage → Bool
  | .sleeping _ _ | .ended => true
  | _ => false

/-- If nobody else does anything, the thread rests at some time, and makes this of the module. -/
def ComesTo (t : MainThread ω) (m : Module ω) : Prop :=
  ∃ t', OwnRun t t' ∧ t'.module = m ∧ t'.stage.isRest = true

theorem comesTo_of_isRest {t : MainThread ω} (h : t.stage.isRest = true) : t.ComesTo t.module :=
  ⟨t, .refl, rfl, h⟩

theorem ComesTo.head {t t₁ : MainThread ω} {m : Module ω} (hstep : Own t t₁)
    (h : t₁.ComesTo m) : t.ComesTo m := by
  obtain ⟨t', hrun, hrest⟩ := h
  exact ⟨t', .head hstep hrun, hrest⟩

theorem comesTo_of_pausing {t : MainThread ω} (hstage : t.stage = .pausing) {s : Schedule}
    (hs : t.schedule = some s) : t.ComesTo t.module := by
  exact .head (.lieDown 0 hstage hs) (comesTo_of_isRest (t := t.goTo (.sleeping _ _)) rfl)

theorem comesTo_of_failing {t : MainThread ω} {f : Failure} (hstage : t.stage = .failing f) :
    t.ComesTo (t.module.abandon f) :=
  .head (.fail hstage) (comesTo_of_isRest rfl)

/-- When an update is done, the thread rests. -/
theorem comesTo_afterUpdate {t : MainThread ω} {s : Schedule} (hs : t.schedule = some s)
    (hloop : s ≠ .static) (hrunning : t.module.isRunning = true) :
    (t.goTo s.afterUpdate).ComesTo t.module := by
  cases s with
  | static => exact absurd rfl hloop
  | interval n => exact comesTo_of_pausing (t := t.goTo .pausing) rfl hs
  | event n =>
    -- an event thread begins the next iteration first
    refine .head (.enter (t := t.goTo .checking) rfl hs hrunning) ?_
    exact comesTo_of_pausing (t := goTo _ .pausing) rfl hs

/-- **A thread that is about to update comes to a refresh of the module.** -/
theorem comesTo_of_updating {t : MainThread ω} (hstage : t.stage = .updating) {s : Schedule}
    (hs : t.schedule = some s) (hloop : s ≠ .static) (hrunning : t.module.isRunning = true)
    (now : Moment) : t.ComesTo (t.module.refreshWidget now) := by
  rcases hwidget : Widget.update t.module.widget now with ⟨widget, f | changed⟩
  · have hmodule : t.module.refreshWidget now = { t.module with widget }.abandon f := by
      simp [Module.refreshWidget, Module.update, hwidget]
    rw [hmodule]
    exact .head (.updateFailed now hstage hwidget) (comesTo_of_failing rfl)
  · refine .head (.update now hstage hs hwidget) ?_
    have htells : s.tells changed = changed := by
      cases s with
      | static => exact absurd rfl hloop
      | interval n | event n => rfl
    rw [htells]
    cases changed with
    | false =>
      have hmodule : t.module.refreshWidget now = { t.module with widget } := by
        simp [Module.refreshWidget, Module.update, hwidget]
      rw [hmodule]
      exact comesTo_afterUpdate (t := t.does _ _) hs hloop hrunning
    | true =>
      have hmodule : t.module.refreshWidget now = { t.module with widget }.broadcast := by
        simp [Module.refreshWidget, Module.update, hwidget]
      rw [hmodule]
      refine .head (.tell (t := goTo (t.does _ _) .telling) rfl hs) ?_
      exact comesTo_afterUpdate (t := does _ _ .told) hs hloop hrunning

/-- **A thread that is about to look comes to a refresh if there is an event**, to nothing if there
is none, and to a failure if the look fails. -/
theorem comesTo_of_looking {t : MainThread ω} (hstage : t.stage = .looking) {n : Nat}
    (hs : t.schedule = some (.event n)) (hrunning : t.module.isRunning = true) (now : Moment) :
    t.ComesTo (match Widget.hasEvent t.module.widget with
      | ⟨widget, .ok true⟩ => { t.module with widget }.refreshWidget now
      | ⟨widget, .ok false⟩ => { t.module with widget }
      | ⟨widget, .error p⟩ => { t.module with widget }.abandon (.panic p)) := by
  rcases hwidget : Widget.hasEvent t.module.widget with ⟨widget, p | event⟩
  · exact .head (.lookFailed hstage hwidget) (comesTo_of_failing rfl)
  · let looked := t.does { t.module with widget } (.looked (.ok event))
    refine .head (.look hstage hwidget) ?_
    cases event with
    | false => exact comesTo_afterUpdate (t := looked) hs nofun hrunning
    | true => exact comesTo_of_updating (t := looked.goTo .updating) rfl hs nofun hrunning now

/-- A turn after a pause, without a break. -/
theorem comesTo_pass {t : MainThread ω} (h : t.Sound) {deadline : Option Nat} {since : UInt64}
    (hstage : t.stage = .sleeping deadline since) (clock : Nat)
    (hover : (Observation.decide? deadline since
      ⟨t.module.state, t.module.control.wakeups, clock⟩).isSome = true) (now : Moment) :
    t.ComesTo (t.module.pass now) := by
  have hdoing := h.doing
  rw [hstage] at hdoing
  have hup (s : Schedule) (hs : t.schedule = some s) : Own t (t.goTo s.afterPause) :=
    .getUp clock hstage hs hover
  rcases hdoing with ⟨n, hs, -⟩ | ⟨n, _, hs, -⟩
  · have hmain : t.module.main = some (.event n) := h.main _ hs nofun (by simp [hstage])
    refine .head (hup _ hs) ?_
    cases hrunning : t.module.isRunning with
    | false =>
      rw [Module.pass_of_not_running hrunning]
      exact .head (.giveUp (t := t.goTo .waking) rfl hrunning) (comesTo_of_isRest rfl)
    | true =>
      rw [Module.pass_event hrunning hmain]
      refine .head (.goOn (t := t.goTo .waking) rfl hrunning) ?_
      exact comesTo_of_looking (t := t.goTo .looking) rfl hs hrunning now
  · have hmain : t.module.main = some (.interval n) := h.main _ hs nofun (by simp [hstage])
    refine .head (hup _ hs) ?_
    cases hrunning : t.module.isRunning with
    | false =>
      rw [Module.pass_of_not_running hrunning]
      exact .head (.leave (t := t.goTo .checking) rfl hrunning) (comesTo_of_isRest rfl)
    | true =>
      rw [Module.pass_interval hrunning hmain]
      refine .head (.enter (t := t.goTo .checking) rfl hs hrunning) ?_
      let entered := (t.goTo .checking).does t.module .began
      exact comesTo_of_updating (t := entered.goTo .updating) rfl hs nofun hrunning now

/-- What the thread does first, without a break. -/
theorem comesTo_begin (m : Module ω) (now : Moment) :
    (spawn m).ComesTo ((spawn m).module.begin now) := by
  have hrunning : (spawn m).module.isRunning = true := rfl
  unfold Module.begin
  cases hschedule : Widget.schedule (spawn m).module.widget with
  | error p => exact .head (.unscheduled rfl hschedule) (comesTo_of_failing rfl)
  | ok s =>
    cases s with
    | static =>
      let asked : MainThread ω := { spawn m with schedule := some .static, stage := .updating }
      have hasked : Own (spawn m) asked := .once rfl hschedule
      refine .head hasked ?_
      simp only [Module.update]
      rcases hwidget : Widget.update (spawn m).module.widget now with ⟨widget, f | changed⟩
      · exact .head (.updateFailed (t := asked) now rfl hwidget) (comesTo_of_failing rfl)
      · let updated := asked.does { (spawn m).module with widget } (.updated (.ok changed))
        refine .head (.update (t := asked) now rfl rfl hwidget) ?_
        exact .head (.tell (t := updated.goTo .telling) rfl rfl) (comesTo_of_isRest rfl)
    | interval n =>
      let asked : MainThread ω := { spawn m with
        schedule := some (.interval n), stage := .checking
        module := { (spawn m).module with main := some (.interval n) } }
      have hasked : Own (spawn m) asked := .loop rfl hschedule nofun
      refine .head hasked (.head (.enter (t := asked) rfl rfl hrunning) ?_)
      let entered := asked.does asked.module .began
      have hpass : asked.module.pass now = asked.module.refreshWidget now :=
        Module.pass_interval hrunning rfl
      show ComesTo _ (asked.module.pass now)
      rw [hpass]
      exact comesTo_of_updating (t := entered.goTo .updating) rfl rfl nofun hrunning now
    | event n =>
      let asked : MainThread ω := { spawn m with
        schedule := some (.event n), stage := .checking
        module := { (spawn m).module with main := some (.event n) } }
      have hasked : Own (spawn m) asked := .loop rfl hschedule nofun
      refine .head hasked (.head (.enter (t := asked) rfl rfl hrunning) ?_)
      let entered := asked.does asked.module .began
      exact comesTo_of_pausing (t := entered.goTo .pausing) rfl rfl

/-! ### Going on -/

/-- The thread waits for nothing but its sleep. -/
theorem Sound.exists_own {t : MainThread ω} (h : t.Sound) (hrest : t.stage.isRest = false) :
    ∃ t', Own t t' := by
  have hdoing := h.doing
  cases hstage : t.stage with
  | asking =>
    cases hschedule : Widget.schedule t.module.widget with
    | error p => exact ⟨_, .unscheduled hstage hschedule⟩
    | ok s =>
      by_cases hloop : s = .static
      · subst hloop
        exact ⟨_, .once hstage hschedule⟩
      · exact ⟨_, .loop hstage hschedule hloop⟩
  | checking =>
    rw [hstage] at hdoing
    obtain ⟨s, hs, -⟩ := hdoing
    cases hrunning : t.module.isRunning with
    | true => exact ⟨_, .enter hstage hs hrunning⟩
    | false => exact ⟨_, .leave hstage hrunning⟩
  | pausing =>
    rw [hstage] at hdoing
    rcases hdoing with ⟨n, hs, -⟩ | ⟨n, _, hs, -⟩
    · exact ⟨_, .lieDown 0 hstage hs⟩
    · exact ⟨_, .lieDown 0 hstage hs⟩
  | sleeping | ended =>
    rw [hstage] at hrest
    cases hrest
  | waking =>
    cases hrunning : t.module.isRunning with
    | true => exact ⟨_, .goOn hstage hrunning⟩
    | false => exact ⟨_, .giveUp hstage hrunning⟩
  | looking =>
    rcases hwidget : Widget.hasEvent t.module.widget with ⟨widget, p | event⟩
    · exact ⟨_, .lookFailed hstage hwidget⟩
    · exact ⟨_, .look hstage hwidget⟩
  | updating =>
    rw [hstage] at hdoing
    obtain ⟨s, hs, -⟩ := hdoing
    rcases hwidget : Widget.update t.module.widget default with ⟨widget, f | changed⟩
    · exact ⟨_, .updateFailed default hstage hwidget⟩
    · exact ⟨_, .update default hstage hs hwidget⟩
  | telling =>
    rw [hstage] at hdoing
    obtain ⟨s, _, hs, -⟩ := hdoing
    exact ⟨_, .tell hstage hs⟩
  | failing f => exact ⟨_, .fail hstage⟩

/-- A thread that sleeps goes on as its schedule says, and in no other way. -/
theorem eq_of_own_of_sleeping {t t' : MainThread ω} {deadline : Option Nat} {since : UInt64}
    (hstage : t.stage = .sleeping deadline since) {s : Schedule} (hs : t.schedule = some s)
    (h : Own t t') : t' = t.goTo s.afterPause := by
  cases h with
  | getUp clock _ hs' _ =>
    rw [hs] at hs'
    cases hs'
    rfl
  | unscheduled h | once h | loop h | enter h | leave h | lieDown _ h | goOn h | giveUp h | look h
  | lookFailed h | update _ h | updateFailed _ h | tell h | fail h =>
    rw [hstage] at h
    cases h

/-- A thread that fails ends, and abandons the module. -/
theorem eq_of_own_of_failing {t t' : MainThread ω} {f : Failure} (hstage : t.stage = .failing f)
    (h : Own t t') : t'.stage = .ended ∧ t'.module = t.module.abandon f := by
  cases h with
  | fail h =>
    rw [hstage] at h
    cases h
    exact ⟨rfl, rfl⟩
  | unscheduled h | once h | loop h | enter h | leave h | lieDown _ h | getUp _ h | goOn h
  | giveUp h | look h | lookFailed h | update _ h | updateFailed _ h | tell h =>
    rw [hstage] at h
    cases h

omit [Widget ω] in
theorem signals_abandon (m : Module ω) (f : Failure) :
    ∃ new, (m.abandon f).signals = m.signals ++ new ∧ new.countP Signal.isChanged = 0 := by
  unfold Module.abandon Module.fail
  split
  · exact ⟨[], (List.append_nil _).symm, rfl⟩
  · exact ⟨[_], rfl, rfl⟩

/-- With each broadcast the thread sends a signal, and else none that tells of a change. -/
theorem Own.signals {t t' : MainThread ω} (h : Own t t') :
    ∃ new, t'.module.signals = t.module.signals ++ new ∧
      t'.count Deed.isTold = t.count Deed.isTold + new.countP Signal.isChanged := by
  have hdoes (m : Module ω) (d : Deed) (stage : Stage) :
      ((t.does m d).goTo stage).count Deed.isTold =
        t.count Deed.isTold + if d.isTold then 1 else 0 := by
    rw [count, deeds_goTo, deeds_does]
    simp [count, List.countP_append, List.countP_singleton]
  have hmove (stage : Stage) : (t.goTo stage).count Deed.isTold = t.count Deed.isTold := by
    rw [count, deeds_goTo, count]
  cases h with
  | unscheduled | once | loop | leave | giveUp =>
    exact ⟨[], (List.append_nil _).symm, rfl⟩
  | lieDown | getUp | goOn =>
    refine ⟨[], ?_, hmove _⟩
    rw [module_goTo]
    exact (List.append_nil _).symm
  | enter | look | lookFailed | update | updateFailed =>
    refine ⟨[], ?_, hdoes _ _ _⟩
    rw [module_goTo]
    exact (List.append_nil _).symm
  | tell =>
    refine ⟨[.changed t.module.name], ?_, hdoes _ _ _⟩
    rw [module_goTo]
    rfl
  | @fail f _ =>
    obtain ⟨new, hsignals, hnew⟩ := signals_abandon t.module f
    refine ⟨new, ?_, ?_⟩
    · rw [module_goTo]
      exact hsignals
    · rw [hnew]
      exact hdoes _ _ _

/-- The thread after somebody has woken all threads of the module. -/
def woken (t : MainThread ω) : MainThread ω :=
  { t with module := { t.module with control := t.module.control.wake } }

omit [Widget ω] in
theorem woken_goTo (t : MainThread ω) (stage : Stage) :
    t.woken.goTo stage = (t.goTo stage).woken := by
  unfold goTo
  split <;> rfl

omit [Widget ω] in
theorem Sound.exists_schedule_of_sleeping {t : MainThread ω} (h : t.Sound)
    {deadline : Option Nat} {since : UInt64} (hstage : t.stage = .sleeping deadline since) :
    ∃ s, t.schedule = some s := by
  have hdoing := h.doing
  rw [hstage] at hdoing
  rcases hdoing with ⟨n, hs, -⟩ | ⟨n, _, hs, -⟩
  · exact ⟨_, hs⟩
  · exact ⟨_, hs⟩

/-- What ends a sleep. -/
theorem own_of_sleeping {t : MainThread ω} {deadline : Option Nat} {since : UInt64}
    (hstage : t.stage = .sleeping deadline since) {s : Schedule} (hs : t.schedule = some s)
    (hends : t.module.state ≠ .running ∨ t.module.control.wakeups ≠ since ∨
      deadline.isSome = true) : Own t (t.goTo s.afterPause) := by
  refine .getUp (deadline.getD 0) hstage hs ?_
  unfold Observation.decide?
  split
  · rfl
  · rename_i hlasts
    rw [not_or, not_not, not_not] at hlasts
    rcases hends with hstate | hwakeups | htime
    · exact absurd hlasts.1 hstate
    · exact absurd hlasts.2 hwakeups
    · obtain ⟨d, rfl⟩ := Option.isSome_iff_exists.mp htime
      simp

omit [Widget ω] in
theorem woken_wakeups_ne (t : MainThread ω) :
    t.woken.module.control.wakeups ≠ t.module.control.wakeups := by
  show t.module.control.wakeups + 1 ≠ t.module.control.wakeups
  simp

/-- A thread that is woken takes its turn, and that is all. -/
theorem Sound.comesTo_wakeup {t : MainThread ω} (h : t.Sound) {deadline : Option Nat}
    (hstage : t.stage = .sleeping deadline t.module.control.wakeups) (now : Moment) :
    t.woken.ComesTo (t.module.wakeup now) := by
  have hsound : t.woken.Sound := sound_others h .wake
  have hstage : t.woken.stage = .sleeping deadline t.module.control.wakeups := hstage
  apply comesTo_pass hsound hstage 0
  have hnew := t.woken_wakeups_ne
  simp [Observation.decide?, hnew]

/-- A module whose thread fails is halted then, and has the text of the failure unless it was halted
before. -/
theorem Sound.halts {t t' : MainThread ω} (h : t.Sound) {f : Failure}
    (hstage : t.stage = .failing f) (hown : Own t t') :
    t'.stage = .ended ∧ t'.module = t.module.abandon f ∧ t'.module.state = .halted ∧
      (t.module.state ≠ .halted → t'.module.control.reason = some f.toError.message) := by
  obtain ⟨hended, hmodule⟩ := eq_of_own_of_failing hstage hown
  have halive := h.alive (by simp [hstage])
  obtain ⟨hstate, hreason⟩ := halted_abandon halive f
  rw [hmodule]
  refine ⟨hended, rfl, hstate, fun hbefore => hreason ?_⟩
  have hopen : t.module.state.isTerminal = false := by
    rcases halive with hstate | hstate | hstate
    · rw [hstate]
      rfl
    · rw [hstate]
      rfl
    · exact absurd hstate hbefore
  rw [Module.halt?_of_open hopen]
  rfl

/-! ### The trace of the thread -/

/-- What can be said of the main thread at any time. -/
structure Follows (t : MainThread ω) : Prop where
  /-- The iterations that have come to their end are those of the schedule. -/
  rounds : ∀ ds ∈ t.past, ∃ s, t.schedule = some s ∧ IsRound s ds
  /-- What has been done in the current one goes with the stage of the thread. -/
  doing : Doing t.schedule t.current t.stage
  /-- Without a loop, there is one update in all. -/
  once : t.schedule = some .static → t.stage = .ended →
    (∃ changed, t.deeds = [.updated (.ok changed), .told]) ∨
      ∃ f effective, t.deeds = [.updated (.error f), .failed f effective]
  /-- In a loop there is one update for each call, and one broadcast for each update that has
  brought something new. -/
  loop : ∀ s, t.schedule = some s → s ≠ .static →
    t.count Deed.isUpdate + (if t.stage = .updating then 1 else 0) = t.count (calls s) ∧
      t.count Deed.isTold + (if t.stage = .telling then 1 else 0) = t.count Deed.isNews
  /-- A broadcast is a signal, and the thread sends no other one that tells of a change. -/
  tells : ∀ t', Own t t' → ∃ new, t'.module.signals = t.module.signals ++ new ∧
    t'.count Deed.isTold = t.count Deed.isTold + new.countP Signal.isChanged
  /-- A look or an update that fails is the last one. -/
  aborts : ∀ d ∈ t.deeds, ∀ f, d.failure? = some f → t.Aborts f
  /-- A thread that fails ends, and its module is halted then. -/
  halts : ∀ f, t.stage = .failing f → ∀ t', Own t t' →
    t'.stage = .ended ∧ t'.module = t.module.abandon f ∧ t'.module.state = .halted ∧
      (t.module.state ≠ .halted → t'.module.control.reason = some f.toError.message)
  ended : t.stage = .ended → ∀ t', Run t t' → t'.stage = .ended ∧ t'.deeds = t.deeds
  /-- When the module does not run any more no iteration begins, and nothing is done if none is
  under way. -/
  quiet : t.module.state ≠ .running → ∀ t', Run t t' →
    t'.count Deed.isBegun = t.count Deed.isBegun ∧ (t.stage.isIdle = true → t'.deeds = t.deeds)
  /-- The thread waits for nothing but its sleep. -/
  goesOn : t.stage.isRest = false → ∃ t', Own t t'
  /-- However a sleep ends, the thread is the same afterwards. -/
  sleeps : ∀ deadline since, t.stage = .sleeping deadline since → ∃ s, t.schedule = some s ∧
    (∀ t', Own t t' → t' = t.goTo s.afterPause) ∧
      (t.module.state ≠ .running ∨ t.module.control.wakeups ≠ since ∨ deadline.isSome = true →
        Own t (t.goTo s.afterPause))
  /-- Somebody who wakes the thread ends its sleep and does nothing else. -/
  wakes : ∀ deadline, t.stage = .sleeping deadline t.module.control.wakeups →
    ∃ s, t.schedule = some s ∧ Own t.woken (t.goTo s.afterPause).woken ∧
      ∀ now, t.woken.ComesTo (t.module.wakeup now)
  /-- Left alone after a sleep, the thread takes one turn. -/
  turns : ∀ deadline since, t.stage = .sleeping deadline since →
    ∀ t', Own t t' → ∀ now, t.ComesTo (t.module.pass now)

/-- **A sound thread follows its schedule.** -/
theorem Sound.follows {t : MainThread ω} (h : t.Sound) : t.Follows := by
  refine ⟨h.past, h.doing, h.deeds_of_static, fun s hs => h.matches hs, fun t' hown => hown.signals,
    fun d hd f => h.aborts hd, fun f hstage t' => h.halts hstage,
    fun hended t' hrun => hrun.deeds_of_ended hended,
    fun hrunning t' hrun => hrun.deeds_of_not_running hrunning, h.exists_own, ?sleeps, ?wakes,
    ?turns⟩
  case sleeps =>
    intro deadline since hstage
    obtain ⟨s, hs⟩ := h.exists_schedule_of_sleeping hstage
    refine ⟨s, hs, ?_, own_of_sleeping hstage hs⟩
    intro t' hown
    exact eq_of_own_of_sleeping hstage hs hown
  case wakes =>
    intro deadline hstage
    obtain ⟨s, hs⟩ := h.exists_schedule_of_sleeping hstage
    refine ⟨s, hs, ?_, h.comesTo_wakeup hstage⟩
    rw [← woken_goTo]
    have hstage : t.woken.stage = .sleeping deadline t.module.control.wakeups := hstage
    exact own_of_sleeping hstage hs (.inr (.inl t.woken_wakeups_ne))
  case turns =>
    intro deadline since hstage t' hown now
    cases hown with
    | getUp clock hstage hs hover => exact comesTo_pass h hstage clock hover now
    | unscheduled h | once h | loop h | enter h | leave h | lieDown _ h | goOn h | giveUp h | look h
    | lookFailed h | update _ h | updateFailed _ h | tell h | fail h =>
      rw [hstage] at h
      cases h

end MainThread

/-- A module that has not been started before is started with its main thread. -/
theorem Module.start_of_constructed {ω : Type} [Widget ω] {m : Module ω}
    (h : m.state = .constructed) (now : Moment) :
    m.start now = (MainThread.spawn m).module.begin now := by
  have hstart : m.control.start? = some { m.control with state := .running } := by
    simp [Control.start?, show m.control.state = .constructed from h]
  rw [start, hstart]
  rfl

/-- **The main thread follows the schedule of the widget.** The widget may give any answers, and
others may do anything to the module between two steps of the thread. When they do nothing, the
thread does what `Module.start`, `Module.pass` and `Module.wakeup` say. -/
theorem main_thread_follows_schedule {ω : Type} [Widget ω] (m : Module ω) :
    (m.state = .constructed → ∀ now, (MainThread.spawn m).ComesTo (m.start now)) ∧
      ∀ t, MainThread.Run (MainThread.spawn m) t → t.Follows := by
  constructor
  · intro hconstructed now
    rw [Module.start_of_constructed hconstructed]
    exact MainThread.comesTo_begin m now
  · intro t hrun
    exact (MainThread.sound_run (MainThread.sound_spawn m) hrun).follows

/-- A clock that shows something else is updated, and broadcasts. -/
theorem main_thread_follows_schedule_clock :
    let clock : ClockWidget :=
      { interval := 1, patterns := {}, alternate := {}, label := {}, shown := { date := "-" } }
    let m : Module ClockWidget :=
      { rawName := "c", formats := {}, widget := clock, markup := .forBar default }
    m.state = .constructed ∧ (MainThread.spawn m).ComesTo (m.start default) ∧
      ∃ t, MainThread.Run (MainThread.spawn m) t ∧ t.Follows ∧ t.stage = .pausing ∧
        t.deeds = [.began, .updated (.ok true), .told] := by
  intro clock m
  have hresult : (Widget.update clock default).result = .ok true := by decide +kernel
  have hupdate : Widget.update clock default =
      ⟨(Widget.update clock default).state, .ok true⟩ := by rw [← hresult]
  have hloop := MainThread.Own.loop (t := .spawn m) rfl rfl (s := .interval 1) nofun
  have hrun := ReflTransGen.refl.tail (MainThread.Step.own hloop)
    |>.tail (.own (.enter rfl rfl rfl))
    |>.tail (.own (.update default rfl rfl hupdate))
    |>.tail (.own (.tell rfl rfl))
  have htrace := main_thread_follows_schedule m
  exact ⟨rfl, htrace.1 rfl default, _, hrun, htrace.2 _ hrun, rfl, rfl⟩

end StatusBar
