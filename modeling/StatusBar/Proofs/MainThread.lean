import Mathlib.Logic.Relation
import StatusBar.Proofs.Calls

/-!
# The main thread in steps

The main thread of a module asks the widget for its schedule and then follows it. It looks at the
state of the module where the loop of the schedule begins, and again after an idle sleep; between
any two of its steps others may wake it, cancel or halt the module, or use the widget.

What the thread does is recorded by iterations (`past`, `current`). Where it is tells what it has
done in the current iteration (`Doing`), and an iteration that has come to its end is one of few
(`IsRound`). This is the invariant `Sound`. It holds in every run from `spawn`
(`MainThread.sound_run`).
-/

namespace StatusBar

open Clock (Moment)
open Relation (ReflTransGen)

namespace MainThread

/-- What the main thread does. -/
inductive Deed where
  /-- Has found the module running at the head of the loop. An iteration begins. -/
  | began
  /-- Has looked for an event. -/
  | looked (event : Except Panic Bool)
  /-- Has updated the widget. -/
  | updated (changed : Except Failure Bool)
  /-- Has broadcast. -/
  | told
  /-- Has halted the module, unless it was halted before. -/
  | failed (failure : Failure) (effective : Bool)

/-- Where the main thread is. -/
inductive Stage where
  | asking
  /-- At the head of the loop. -/
  | checking
  /-- About to sleep. -/
  | pausing
  | sleeping (deadline : Option Nat) (since : UInt64)
  /-- Has slept before it has looked for an event. -/
  | waking
  | looking
  | updating
  | telling
  | failing (failure : Failure)
  | ended
deriving DecidableEq

end MainThread

open MainThread (Stage Deed)

/-! ### Schedules -/

namespace Schedule

/-- The length of a pause in nanoseconds. -/
def pause : Schedule → Nat
  | static => 0
  | interval seconds => seconds * 1000000000
  | event idle => idle * 1000000

/-- What an iteration begins with. Without a loop there is none. -/
def body : Schedule → Stage
  | static => .ended
  | interval _ => .updating
  | event _ => .pausing

/-- What follows a pause. Without a loop there is none. -/
def afterPause : Schedule → Stage
  | static => .ended
  | interval _ => .checking
  | event _ => .waking

/-- What follows an update that has been told of, or need not be told of. -/
def afterUpdate : Schedule → Stage
  | static => .ended
  | interval _ => .pausing
  | event _ => .checking

/-- Whether the host is told of an update with this result. -/
def tells : Schedule → (changed : Bool) → Bool
  | static, _ => true
  | interval _, changed | event _, changed => changed

/-- What is done in an iteration before the update. -/
def front : Schedule → List Deed
  | static => []
  | interval _ => [.began]
  | event _ => [.began, .looked (.ok true)]

/-- What is done in an iteration with an update that does not fail. -/
def whole (s : Schedule) (changed : Bool) : List Deed :=
  s.front ++ .updated (.ok changed) :: if s.tells changed then [.told] else []

end Schedule

/-! ### Steps -/

/-- A module with its main thread. -/
structure MainThread (ω : Type) where
  module : Module ω
  stage : Stage := .asking
  /-- The schedule, as soon as it is known. -/
  schedule : Option Schedule := none
  /-- What was done in each of the iterations that have come to their end, in order. -/
  past : List (List Deed) := []
  /-- What has been done in the current iteration, in order. -/
  current : List Deed := []

namespace MainThread

variable {ω : Type}

/-- The main thread of a module that has just been started. -/
def spawn (m : Module ω) : MainThread ω :=
  { module := { m with control := { m.control with state := .running } } }

/-- The thread at another stage. An iteration has come to its end when the thread is back at the
head of the loop. -/
def goTo (t : MainThread ω) (stage : Stage) : MainThread ω :=
  if stage = .checking then { t with stage, past := t.past ++ [t.current], current := [] }
  else { t with stage }

/-- The thread after a deed, which may have changed the module. -/
def does (t : MainThread ω) (m : Module ω) (deed : Deed) : MainThread ω :=
  { t with module := m, current := t.current ++ [deed] }

/-- The steps of the thread itself. -/
inductive Own [Widget ω] : MainThread ω → MainThread ω → Prop where
  | unscheduled {t p} : t.stage = .asking → Widget.schedule t.module.widget = .error p →
      Own t (t.goTo (.failing (.panic p)))
  | once {t} : t.stage = .asking → Widget.schedule t.module.widget = .ok .static →
      Own t { t with schedule := some .static, stage := .updating }
  | loop {t s} : t.stage = .asking → Widget.schedule t.module.widget = .ok s → s ≠ .static →
      Own t { t with
        schedule := some s, stage := .checking, module := { t.module with main := some s } }
  | enter {t s} : t.stage = .checking → t.schedule = some s → t.module.isRunning = true →
      Own t ((t.does t.module .began).goTo s.body)
  | leave {t} : t.stage = .checking → t.module.isRunning = false →
      Own t { t with stage := .ended, module := { t.module with main := none } }
  | lieDown {t s} (clock : Nat) : t.stage = .pausing → t.schedule = some s →
      Own t (t.goTo (.sleeping (deadline? clock s.pause) t.module.control.wakeups))
  /-- A sleep is over when the thread is woken, when the module does not run any more, or in the
  end. The thread does not ask which of them it was. -/
  | getUp {t s deadline since} (clock : Nat) :
      t.stage = .sleeping deadline since → t.schedule = some s →
      (Observation.decide? deadline since
        ⟨t.module.state, t.module.control.wakeups, clock⟩).isSome = true →
      Own t (t.goTo s.afterPause)
  | goOn {t} : t.stage = .waking → t.module.isRunning = true → Own t (t.goTo .looking)
  | giveUp {t} : t.stage = .waking → t.module.isRunning = false →
      Own t { t with stage := .ended, module := { t.module with main := none } }
  | look {t widget event} : t.stage = .looking →
      Widget.hasEvent t.module.widget = ⟨widget, .ok event⟩ →
      Own t ((t.does { t.module with widget } (.looked (.ok event))).goTo
        (if event then .updating else .checking))
  | lookFailed {t widget p} : t.stage = .looking →
      Widget.hasEvent t.module.widget = ⟨widget, .error p⟩ →
      Own t ((t.does { t.module with widget } (.looked (.error p))).goTo (.failing (.panic p)))
  | update {t s widget changed} (now : Moment) : t.stage = .updating → t.schedule = some s →
      Widget.update t.module.widget now = ⟨widget, .ok changed⟩ →
      Own t ((t.does { t.module with widget } (.updated (.ok changed))).goTo
        (if s.tells changed then .telling else s.afterUpdate))
  | updateFailed {t widget f} (now : Moment) : t.stage = .updating →
      Widget.update t.module.widget now = ⟨widget, .error f⟩ →
      Own t ((t.does { t.module with widget } (.updated (.error f))).goTo (.failing f))
  | tell {t s} : t.stage = .telling → t.schedule = some s →
      Own t ((t.does t.module.broadcast .told).goTo s.afterUpdate)
  | fail {t f} : t.stage = .failing f →
      Own t ((t.does (t.module.abandon f)
        (.failed f (t.module.control.halt? f.toError.message).isSome)).goTo .ended)

/-- What others do meanwhile. -/
inductive Others : MainThread ω → MainThread ω → Prop where
  | wake {t} : Others t { t with
      module := { t.module with control := t.module.control.wake } }
  /-- The first half of a stop. -/
  | cancel {t} : Others t { t with module := t.module.cancel.1 }
  /-- The second half of a stop, which waits for the thread. -/
  | finish {t} : t.stage = .ended → Others t { t with module := (t.module.finish true).1 }
  | halt {t} (e : ModuleError) : Others t { t with module := t.module.fail e }
  /-- Others use the widget, render, take signals, and so on. -/
  | use {t} (m : Module ω) : m.control = t.module.control → m.main = t.module.main →
      Others t { t with module := m }

variable [Widget ω]

/-- The steps of all that take part. -/
inductive Step : MainThread ω → MainThread ω → Prop where
  | own {t t' : MainThread ω} : Own t t' → Step t t'
  | others {t t' : MainThread ω} : Others t t' → Step t t'

abbrev Run : MainThread ω → MainThread ω → Prop := ReflTransGen Step

/-- Any number of steps of the thread without anything done by others. -/
abbrev OwnRun : MainThread ω → MainThread ω → Prop := ReflTransGen Own

/-! ### The invariant -/

/-- What is done in an iteration after which the thread goes on. -/
inductive IsRound : Schedule → List Deed → Prop where
  /-- There was no event. -/
  | idle (n : Nat) : IsRound (.event n) [.began, .looked (.ok false)]
  | whole {s : Schedule} (changed : Bool) : s ≠ .static → IsRound s (s.whole changed)

/-- What is done when something fails. -/
inductive Fails : Option Schedule → Failure → List Deed → Prop where
  | schedule (p : Panic) : Fails none (.panic p) []
  | look (n : Nat) (p : Panic) : Fails (some (.event n)) (.panic p) [.began, .looked (.error p)]
  | update (s : Schedule) (f : Failure) : Fails (some s) f (s.front ++ [.updated (.error f)])

/-- What is done at last when nothing fails. -/
inductive Leaves : Option Schedule → List Deed → Prop where
  | once (changed : Bool) : Leaves (some .static) (Schedule.static.whole changed)
  | loop {s : Schedule} : s ≠ .static → Leaves (some s) []
  /-- The module was not running any more after the idle sleep. -/
  | idle (n : Nat) : Leaves (some (.event n)) [.began]

/-- What has been done in the current iteration at a stage. -/
def Doing (schedule : Option Schedule) (deeds : List Deed) : Stage → Prop
  | .asking => schedule = none ∧ deeds = []
  | .checking => ∃ s, schedule = some s ∧ s ≠ .static ∧ deeds = []
  | .pausing | .sleeping _ _ =>
    (∃ n, schedule = some (.event n) ∧ deeds = [.began]) ∨
      ∃ n changed, schedule = some (.interval n) ∧ deeds = (Schedule.interval n).whole changed
  | .waking | .looking => ∃ n, schedule = some (.event n) ∧ deeds = [.began]
  | .updating => ∃ s, schedule = some s ∧ deeds = s.front
  | .telling => ∃ s changed, schedule = some s ∧ s.tells changed = true ∧
      deeds = s.front ++ [.updated (.ok changed)]
  | .failing f => Fails schedule f deeds
  | .ended => Leaves schedule deeds ∨
      ∃ f effective before, deeds = before ++ [.failed f effective] ∧ Fails schedule f before

/-- What is always true of the thread. -/
structure Sound (t : MainThread ω) : Prop where
  doing : Doing t.schedule t.current t.stage
  past : ∀ deeds ∈ t.past, ∃ s, t.schedule = some s ∧ IsRound s deeds
  main : ∀ s, t.schedule = some s → s ≠ .static → t.stage ≠ .ended → t.module.main = some s
  /-- The module does not stop before the thread has ended. -/
  alive : t.stage ≠ .ended →
    t.module.state = .running ∨ t.module.state = .stopping ∨ t.module.state = .halted
  halted : ∀ f effective, .failed f effective ∈ t.current →
    t.module.state = .halted ∧
      (effective = true → t.module.control.reason = some f.toError.message)

theorem IsRound.ne_static {s : Schedule} {deeds : List Deed} (h : IsRound s deeds) :
    s ≠ .static := by
  cases h with
  | idle n => exact nofun
  | whole changed hs => exact hs

omit [Widget ω] in
theorem sound_spawn (m : Module ω) : (spawn m).Sound where
  doing := ⟨rfl, rfl⟩
  past := nofun
  main := nofun
  alive _ := .inl rfl
  halted := nofun

/-! ### Iterations without a failure -/

/-- No failure is recorded among the deeds. -/
def Unfailed (deeds : List Deed) : Prop := ∀ f effective, .failed f effective ∉ deeds

theorem Unfailed.concat {deeds : List Deed} (h : Unfailed deeds) {d : Deed}
    (hd : ∀ f effective, d ≠ .failed f effective) : Unfailed (deeds ++ [d]) := by
  intro f effective hfailed
  rcases List.mem_append.mp hfailed with hfailed | hfailed
  · exact h f effective hfailed
  · exact hd f effective (List.mem_singleton.mp hfailed).symm

theorem unfailed_began : Unfailed [.began] := by simp [Unfailed]

theorem unfailed_front (s : Schedule) : Unfailed s.front := by
  cases s <;> simp [Unfailed, Schedule.front]

theorem unfailed_whole (s : Schedule) (changed : Bool) : Unfailed (s.whole changed) := by
  have hupdated := (unfailed_front s).concat (d := .updated (.ok changed)) nofun
  unfold Schedule.whole
  split
  · simpa using hupdated.concat (d := .told) nofun
  · exact hupdated

theorem Fails.unfailed {s : Option Schedule} {f : Failure} {deeds : List Deed}
    (h : Fails s f deeds) : Unfailed deeds := by
  cases h with
  | schedule p => exact nofun
  | look n p => exact unfailed_began.concat nofun
  | update s f => exact (unfailed_front s).concat nofun

theorem Leaves.unfailed {s : Option Schedule} {deeds : List Deed} (h : Leaves s deeds) :
    Unfailed deeds := by
  cases h with
  | once changed => exact unfailed_whole _ changed
  | loop => exact nofun
  | idle n => exact unfailed_began

theorem IsRound.unfailed {s : Schedule} {deeds : List Deed} (h : IsRound s deeds) :
    Unfailed deeds := by
  cases h with
  | idle n => exact unfailed_began.concat nofun
  | whole changed => exact unfailed_whole s changed

/-- What has been done when the thread goes on to a stage. -/
def Arrives (schedule : Option Schedule) (deeds : List Deed) : Stage → Prop
  | .checking => ∃ s, schedule = some s ∧ IsRound s deeds
  | .ended => Leaves schedule deeds
  | stage => Doing schedule deeds stage

/-- A thread that goes on has recorded no failure. -/
theorem Arrives.unfailed {schedule : Option Schedule} {deeds : List Deed} {stage : Stage}
    (h : Arrives schedule deeds stage) : Unfailed deeds := by
  cases stage with
  | asking =>
    obtain ⟨-, rfl⟩ := h
    exact nofun
  | checking =>
    obtain ⟨s, -, hround⟩ := h
    exact hround.unfailed
  | pausing | sleeping =>
    rcases h with ⟨n, -, rfl⟩ | ⟨n, changed, -, rfl⟩
    · exact unfailed_began
    · exact unfailed_whole _ changed
  | waking | looking =>
    obtain ⟨n, -, rfl⟩ := h
    exact unfailed_began
  | updating =>
    obtain ⟨s, -, rfl⟩ := h
    exact unfailed_front s
  | telling =>
    obtain ⟨s, changed, -, -, rfl⟩ := h
    exact (unfailed_front s).concat nofun
  | failing f => exact Fails.unfailed h
  | ended => exact Leaves.unfailed h

/-- When an update is done and told of, the iteration is whole. -/
theorem arrives_afterUpdate (s : Schedule) (changed : Bool) :
    Arrives (some s) (s.whole changed) s.afterUpdate := by
  cases s with
  | static => exact .once changed
  | interval n => exact .inr ⟨n, changed, rfl, rfl⟩
  | event n => exact ⟨_, rfl, .whole changed nofun⟩

/-! ### Steps of the thread -/

/-- `t₀` is `t`, which has not ended, with something done that leaves the module alive. -/
structure Keeps (t t₀ : MainThread ω) : Prop where
  stage : t.stage ≠ .ended
  control : t₀.module.control = t.module.control
  main : t₀.module.main = t.module.main
  schedule : t₀.schedule = t.schedule
  past : t₀.past = t.past

omit [Widget ω] in
/-- **To go on is sound** if what has been done is what the next stage asks for. When the thread
goes back to the check it begins another iteration, and the one behind it has been whole. -/
theorem Sound.goTo {t t₀ : MainThread ω} (h : t.Sound) (hkeeps : t.Keeps t₀) {stage : Stage}
    (harrives : Arrives t.schedule t₀.current stage) : (t₀.goTo stage).Sound := by
  have hstate : t₀.module.state = t.module.state := congrArg Control.state hkeeps.control
  have halive := h.alive hkeeps.stage
  have hpast := h.past
  have hmain (s : Schedule) (hs : t₀.schedule = some s) (hloop : s ≠ .static) :
      t₀.module.main = some s := by
    rw [hkeeps.schedule] at hs
    rw [hkeeps.main]
    exact h.main s hs hloop hkeeps.stage
  have hunfailed := harrives.unfailed
  rw [← hstate] at halive
  rw [← hkeeps.schedule] at harrives hpast
  rw [← hkeeps.past] at hpast
  unfold MainThread.goTo
  by_cases hchecking : stage = .checking
  · subst hchecking
    obtain ⟨s, hs, hround⟩ := harrives
    rw [if_pos rfl]
    refine ⟨⟨s, hs, hround.ne_static, rfl⟩, ?_, fun s hs hloop _ => hmain s hs hloop,
      fun _ => halive, nofun⟩
    intro deeds hdeeds
    rcases List.mem_append.mp hdeeds with hdeeds | hdeeds
    · exact hpast deeds hdeeds
    · rw [List.mem_singleton.mp hdeeds]
      exact ⟨s, hs, hround⟩
  · rw [if_neg hchecking]
    refine ⟨?_, hpast, fun s hs hloop _ => hmain s hs hloop, fun _ => halive, ?_⟩
    · cases stage with
      | checking => exact absurd rfl hchecking
      | ended => exact .inl harrives
      | _ => exact harrives
    · intro f effective hfailed
      exact absurd hfailed (hunfailed f effective)

omit [Widget ω] in
theorem Sound.does {t : MainThread ω} (h : t.Sound) {m : Module ω} {d : Deed} {stage : Stage}
    (harrives : Arrives t.schedule (t.current ++ [d]) stage) (hstage : t.stage ≠ .ended)
    (hcontrol : m.control = t.module.control) (hmain : m.main = t.module.main) :
    ((t.does m d).goTo stage).Sound := by
  have hkeeps : t.Keeps (t.does m d) := ⟨hstage, hcontrol, hmain, rfl, rfl⟩
  exact h.goTo hkeeps harrives

omit [Widget ω] in
/-- The thread leaves its loop. -/
theorem Sound.leave {t : MainThread ω} (h : t.Sound) (hleaves : Leaves t.schedule t.current) :
    Sound { t with stage := .ended, module := { t.module with main := none } } :=
  ⟨.inl hleaves, h.past, fun _ _ _ hended => absurd rfl hended, fun hended => absurd rfl hended,
    h.halted⟩

omit [Widget ω] in
/-- A module whose thread fails is halted then, with the text of the failure if that has any
effect. -/
theorem halted_abandon {m : Module ω}
    (halive : m.state = .running ∨ m.state = .stopping ∨ m.state = .halted) (f : Failure) :
    (m.abandon f).state = .halted ∧
      ((m.control.halt? f.toError.message).isSome = true →
        (m.abandon f).control.reason = some f.toError.message) := by
  cases hterminal : m.state.isTerminal with
  | true =>
    have hstate : m.state = .halted := by
      rcases halive with h | h | h
      · simp [h, State.isTerminal] at hterminal
      · simp [h, State.isTerminal] at hterminal
      · exact h
    have hkeep := Module.halt?_of_terminal hterminal f.toError.message
    have habandon : m.abandon f = { m with main := none } := by
      simp [Module.abandon, Module.fail, hkeep]
    rw [habandon, hkeep]
    refine ⟨hstate, fun heffective => ?_⟩
    cases heffective
  | false =>
    have hhalt := Module.halt?_of_open hterminal f.toError.message
    simp [Module.abandon, Module.fail, hhalt, Module.emit, Module.state]

omit [Widget ω] in
/-- The thread fails. -/
theorem Sound.fail {t : MainThread ω} (h : t.Sound) {f : Failure} (hstage : t.stage = .failing f) :
    ((t.does (t.module.abandon f)
      (.failed f (t.module.control.halt? f.toError.message).isSome)).goTo .ended).Sound := by
  have hfails : Fails t.schedule f t.current := by
    have hdoing := h.doing
    rw [hstage] at hdoing
    exact hdoing
  refine ⟨.inr ⟨f, _, t.current, rfl, hfails⟩, h.past, fun s _ _ hended => absurd rfl hended,
    fun hended => absurd rfl hended, ?_⟩
  intro f' effective hfailed
  rcases List.mem_append.mp hfailed with hfailed | hfailed
  · exact absurd hfailed (hfails.unfailed f' effective)
  · cases List.mem_singleton.mp hfailed
    exact halted_abandon (h.alive (by simp [hstage])) f

/-- **Every step of the thread is sound.** The cases are the stages; each of them says what has been
done before, and the step adds one deed or none. -/
theorem sound_own {t t' : MainThread ω} (h : t.Sound) (hstep : Own t t') : t'.Sound := by
  have hdoing := h.doing
  have hsame (hstage : t.stage ≠ .ended) : t.Keeps t := ⟨hstage, rfl, rfl, rfl, rfl⟩
  cases hstep with
  | @unscheduled p hstage hwidget =>
    rw [hstage] at hdoing
    obtain ⟨hs, hcurrent⟩ := hdoing
    apply h.goTo (hsame (by simp [hstage]))
    rw [hs, hcurrent]
    exact .schedule p
  | once hstage hwidget =>
    rw [hstage] at hdoing
    obtain ⟨hs, hcurrent⟩ := hdoing
    refine ⟨⟨.static, rfl, hcurrent⟩, ?_, ?_, fun _ => h.alive (by simp [hstage]), h.halted⟩
    · intro deeds hdeeds
      obtain ⟨s, hs', -⟩ := h.past deeds hdeeds
      rw [hs] at hs'
      cases hs'
    · intro s hs hloop
      cases hs
      exact absurd rfl hloop
  | @loop s hstage hwidget hloop =>
    rw [hstage] at hdoing
    obtain ⟨hs, hcurrent⟩ := hdoing
    refine ⟨⟨s, rfl, hloop, hcurrent⟩, ?_, fun s' hs' _ _ => hs',
      fun _ => h.alive (by simp [hstage]), h.halted⟩
    intro deeds hdeeds
    obtain ⟨s, hs', -⟩ := h.past deeds hdeeds
    rw [hs] at hs'
    cases hs'
  | @enter s hstage hs hrunning =>
    rw [hstage] at hdoing
    obtain ⟨s', hs', hloop, hcurrent⟩ := hdoing
    obtain rfl : s = s' := Option.some.inj (hs.symm.trans hs')
    refine h.does ?_ (by simp [hstage]) rfl rfl
    rw [hs, hcurrent]
    cases s with
    | static => exact absurd rfl hloop
    | interval n => exact ⟨_, rfl, rfl⟩
    | event n => exact .inl ⟨n, rfl, rfl⟩
  | leave hstage hrunning =>
    rw [hstage] at hdoing
    obtain ⟨s, hs, hloop, hcurrent⟩ := hdoing
    apply h.leave
    rw [hs, hcurrent]
    exact .loop hloop
  | @lieDown s clock hstage hs =>
    rw [hstage] at hdoing
    exact h.goTo (hsame (by simp [hstage])) hdoing
  | @getUp s deadline since clock hstage hs hover =>
    rw [hstage] at hdoing
    apply h.goTo (hsame (by simp [hstage]))
    rcases hdoing with ⟨n, hn, hcurrent⟩ | ⟨n, changed, hn, hcurrent⟩
    · obtain rfl : s = _ := Option.some.inj (hs.symm.trans hn)
      exact ⟨n, hn, hcurrent⟩
    · obtain rfl : s = _ := Option.some.inj (hs.symm.trans hn)
      rw [hcurrent]
      exact ⟨_, hn, .whole changed nofun⟩
  | goOn hstage hrunning =>
    rw [hstage] at hdoing
    exact h.goTo (hsame (by simp [hstage])) hdoing
  | giveUp hstage hrunning =>
    rw [hstage] at hdoing
    obtain ⟨n, hs, hcurrent⟩ := hdoing
    apply h.leave
    rw [hs, hcurrent]
    exact .idle n
  | @look widget event hstage hwidget =>
    rw [hstage] at hdoing
    obtain ⟨n, hs, hcurrent⟩ := hdoing
    refine h.does ?_ (by simp [hstage]) rfl rfl
    rw [hs, hcurrent]
    cases event with
    | true => exact ⟨_, rfl, rfl⟩
    | false => exact ⟨_, rfl, .idle n⟩
  | @lookFailed widget p hstage hwidget =>
    rw [hstage] at hdoing
    obtain ⟨n, hs, hcurrent⟩ := hdoing
    refine h.does ?_ (by simp [hstage]) rfl rfl
    rw [hs, hcurrent]
    exact .look n p
  | @update s widget changed now hstage hs hwidget =>
    rw [hstage] at hdoing
    obtain ⟨s', hs', hcurrent⟩ := hdoing
    obtain rfl : s = s' := Option.some.inj (hs.symm.trans hs')
    refine h.does ?_ (by simp [hstage]) rfl rfl
    rw [hs, hcurrent]
    cases htells : s.tells changed with
    | true => exact ⟨s, changed, rfl, htells, rfl⟩
    | false =>
      have hwhole : s.front ++ [.updated (.ok changed)] = s.whole changed := by
        simp [Schedule.whole, htells]
      rw [hwhole]
      exact arrives_afterUpdate s changed
  | @updateFailed widget f now hstage hwidget =>
    rw [hstage] at hdoing
    obtain ⟨s, hs, hcurrent⟩ := hdoing
    refine h.does ?_ (by simp [hstage]) rfl rfl
    rw [hs, hcurrent]
    exact .update s f
  | @tell s hstage hs =>
    rw [hstage] at hdoing
    obtain ⟨s', changed, hs', htells, hcurrent⟩ := hdoing
    obtain rfl : s = s' := Option.some.inj (hs.symm.trans hs')
    refine h.does ?_ (by simp [hstage]) rfl rfl
    have hwhole : t.current ++ [.told] = s.whole changed := by
      simp [Schedule.whole, hcurrent, htells]
    rw [hs, hwhole]
    exact arrives_afterUpdate s changed
  | fail hstage => exact h.fail hstage

/-! ### Steps of others -/

omit [Widget ω] in
/-- Others do not touch what the thread knows. -/
theorem Others.frame {t t' : MainThread ω} (h : Others t t') :
    t' = { t with module := t'.module } ∧ t'.module.main = t.module.main := by
  cases h with
  | wake => exact ⟨rfl, rfl⟩
  | cancel =>
    refine ⟨rfl, ?_⟩
    show t.module.cancel.1.main = t.module.main
    unfold Module.cancel
    split <;> rfl
  | finish hended => exact ⟨rfl, rfl⟩
  | halt e =>
    refine ⟨rfl, ?_⟩
    show (t.module.fail e).main = t.module.main
    unfold Module.fail
    split <;> rfl
  | use m hcontrol hmain => exact ⟨rfl, hmain⟩

/-- What others make of the life of a module, while its thread has ended or not. -/
inductive Drifts (ended : Prop) : Control → Control → Prop where
  | keep {c c' : Control} : c'.state = c.state → c'.reason = c.reason → Drifts ended c c'
  | discard {c c' : Control} : c.state = .constructed → c'.state = .stopped → Drifts ended c c'
  | cancel {c c' : Control} : c.state = .running → c'.state = .stopping → Drifts ended c c'
  | finish {c c' : Control} : ended → c.state = .stopping → c'.state = .stopped → Drifts ended c c'
  | halt {c c' : Control} : c.state.isTerminal = false → c'.state = .halted → Drifts ended c c'

omit [Widget ω] in
/-- All that others do makes the control drift. It finishes only after the thread has ended. -/
theorem Others.drifts {t t' : MainThread ω} (h : Others t t') :
    Drifts (t.stage = .ended) t.module.control t'.module.control := by
  cases h with
  | wake => exact .keep rfl rfl
  | cancel =>
    show Drifts _ _ t.module.cancel.1.control
    rw [Module.cancel_eq]
    cases hstate : t.module.state with
    | constructed => exact .discard hstate rfl
    | running => exact .cancel hstate rfl
    | stopping | stopped | halted => exact .keep rfl rfl
  | finish hended =>
    show Drifts _ _ (t.module.finish true).1.control
    cases hstate : t.module.state with
    | stopping =>
      rw [Module.finish_of_stopping (.inl hstate)]
      exact .finish hended hstate rfl
    | stopped =>
      rw [Module.finish_of_stopping (.inr hstate)]
      exact .keep hstate.symm rfl
    | constructed | running | halted =>
      have hkeep : t.module.control.finish? = none := by
        simp [Control.finish?, show t.module.control.state = _ from hstate]
      simp only [Module.finish, hkeep]
      exact .keep rfl rfl
  | halt e =>
    show Drifts _ _ (t.module.fail e).control
    cases hterminal : t.module.state.isTerminal with
    | true =>
      rw [Module.fail, Module.halt?_of_terminal hterminal]
      exact .keep rfl rfl
    | false =>
      rw [Module.fail, Module.halt?_of_open hterminal]
      exact .halt hterminal rfl
  | use m hcontrol hmain =>
    rw [hcontrol]
    exact .keep rfl rfl

omit [Widget ω] in
/-- **What others do is sound for the thread**, whose deeds are left alone. -/
theorem sound_others {t t' : MainThread ω} (h : t.Sound) (hstep : Others t t') : t'.Sound := by
  obtain ⟨hframe, hmain⟩ := hstep.frame
  have hdrifts := hstep.drifts
  have halive : t.stage ≠ .ended →
      t'.module.state = .running ∨ t'.module.state = .stopping ∨ t'.module.state = .halted := by
    intro hstage
    have halive := h.alive hstage
    unfold Module.state at halive ⊢
    cases hdrifts with
    | keep hstate _ => rwa [hstate]
    | discard hstate _ => simp [hstate] at halive
    | cancel _ hstate => exact .inr (.inl hstate)
    | finish hended => exact absurd hended hstage
    | halt _ hstate => exact .inr (.inr hstate)
  have hhalted : ∀ f effective, .failed f effective ∈ t.current →
      t'.module.state = .halted ∧
        (effective = true → t'.module.control.reason = some f.toError.message) := by
    intro f effective hfailed
    obtain ⟨hstate, hreason⟩ := h.halted f effective hfailed
    unfold Module.state at hstate ⊢
    -- once it is halted, a module stays so
    cases hdrifts with
    | keep hkeep hsame => rw [hkeep, hsame]; exact ⟨hstate, hreason⟩
    | discard hother _ | cancel hother _ | finish _ hother _ =>
      rw [hstate] at hother
      cases hother
    | halt hopen _ =>
      rw [hstate] at hopen
      cases hopen
  rw [hframe]
  exact ⟨h.doing, h.past, fun s hs hloop hstage => hmain.trans (h.main s hs hloop hstage), halive,
    hhalted⟩

theorem sound_run {t t' : MainThread ω} (h : t.Sound) (hrun : Run t t') : t'.Sound := by
  induction hrun with
  | refl => exact h
  | tail _ hstep ih =>
    cases hstep with
    | own hstep => exact sound_own ih hstep
    | others hstep => exact sound_others ih hstep

end MainThread

end StatusBar
