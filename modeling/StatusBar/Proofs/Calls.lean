import Mathlib.Logic.Function.Iterate
import StatusBar.Module.Content
import StatusBar.Proofs.Workers

/-!
# Calls in steps

A call for the content of a module and a call to stop it take several steps, and threads go on
between them. `Reading` tells how far a call for the content has come, and `next` takes its next
step. A stop consists of `cancel` and `finish`, and waits in between until the module is alone.

Taken without a break, the steps come to the calls: see `advance_content` and `stop_eq`. What a
step can do to the state of the module, and to the signals that tell of its end, is `Fate`.
-/

namespace StatusBar

open Clock (Moment)

namespace Module

variable {ω : Type} [Widget ω]

omit [Widget ω] in
theorem claim?_of_isStale {m : Module ω} (h : m.isStale = true) :
    m.claim? = some { m with changed := false } := by
  have hchanged : m.changed = true := by
    simp only [isStale, Bool.and_eq_true] at h
    exact h.1
  simp [claim?, hchanged]

@[simp] theorem changed_render (m : Module ω) : m.render.module.changed = m.changed := by
  unfold render
  split <;> rfl

theorem refreshWhile_of_isStale {m : Module ω} (h : m.isStale = true) :
    (m.refreshWhile fun _ m => m) =
      let drawing := { m with changed := false }.render
      (drawing.asked, settle drawing.module drawing.text) := by
  simp [refreshWhile, h, claim?_of_isStale h]

theorem refreshWhile_of_not_isStale {m : Module ω} (h : m.isStale = false) :
    (m.refreshWhile fun _ m => m) = ([], m) := by
  simp [refreshWhile, h]

end Module

/-- The reason for which a change tries to halt the module. -/
def Act.reason? {ω : Type} : Act ω → Option String
  | .halt e => some e.message
  | .work _ | .wake | .mark => none

/-! ### A call for the content -/

/-- How far a call for the content has come. -/
inductive Reading where
  /-- About to look whether there is something to render. -/
  | looking
  /-- There was, and the widget is to be had. -/
  | waiting
  /-- Has the widget, and has taken the mark away. -/
  | claimed
  /-- Has rendered. -/
  | drawn (text : Except ModuleError String)
  /-- Has halted the module, and returns what was last rendered. -/
  | returning
  | done (text : String)

namespace Reading

/-- Whether the call keeps the widget for itself. -/
def holdsWidget : Reading → Bool
  | claimed | drawn (.ok _) => true
  | looking | waiting | drawn (.error _) | returning | done _ => false

/-- The reason for which the next step tries to halt the module. -/
def reason? : Reading → Option String
  | drawn (.error e) => some e.message
  | looking | waiting | claimed | drawn (.ok _) | returning | done _ => none

variable {ω : Type} [Widget ω]

/-- The next step, the module after it, and the signal that is owed for it. -/
def next (m : Module ω) : Reading → Reading × Module ω × Option Signal
  | looking => if m.isStale then (waiting, m, none) else (done m.cached, m, none)
  | waiting =>
    match m.claim? with
    | none => (done m.cached, m, none)
    | some m => (claimed, m, none)
  | claimed => let drawing := m.render; (drawn drawing.text, drawing.module, none)
  | drawn (.ok text) => (done text, m.settle (.ok text), none)
  | drawn (.error e) => (returning, m.act (.halt e))
  | returning => (done m.cached, m, none)
  | done text => (done text, m, none)

/-- A step after which the host is told at once. -/
def advance : Reading × Module ω → Reading × Module ω
  | (r, m) => ((r.next m).1, Module.told (r.next m).2)

@[simp] theorem advance_done (text : String) (m : Module ω) :
    advance (done text, m) = (done text, m) := rfl

/-- What was rendered is stored or halts the module, and is returned in any case. -/
theorem advance_drawn (text : Except ModuleError String) (m : Module ω) :
    advance (advance (drawn text, m)) = (done (m.settle text).cached, m.settle text) := by
  cases text with
  | ok text => rfl
  | error e =>
    have hhalt : advance (drawn (.error e), m) = (returning, m.fail e) :=
      congrArg (Prod.mk returning) (Module.told_halt m e)
    rw [hhalt]
    rfl

/-- Without a break, a call is over after five steps at most, and has done what `content` does. -/
theorem advance_content (m : Module ω) :
    advance^[5] (looking, m) = (done m.content.1, m.content.2) := by
  have hcached : m.content.1 = m.content.2.cached := rfl
  have hcontent : m.content.2 = (m.refreshWhile fun _ m => m).2 := rfl
  rw [hcached, hcontent]
  simp only [Function.iterate_succ_apply, Function.iterate_zero, id]
  cases hs : m.isStale with
  | false =>
    -- the first step ends the call, and the others wait
    have hlook : advance (looking, m) = (done m.cached, m) := by
      simp [advance, next, hs, Module.told]
    simp only [hlook, advance_done, Module.refreshWhile_of_not_isStale hs]
  | true =>
    rw [Module.refreshWhile_of_isStale hs]
    have hlook : advance (looking, m) = (waiting, m) := by simp [advance, next, hs, Module.told]
    have hwait : advance (waiting, m) = (claimed, { m with changed := false }) := by
      simp [advance, next, Module.claim?_of_isStale hs, Module.told]
    have hdraw : advance (claimed, { m with changed := false }) =
        (drawn { m with changed := false }.render.text,
          { m with changed := false }.render.module) := rfl
    rw [hlook, hwait, hdraw, advance_drawn]

/-- A call does not care what has been sent before. -/
theorem next_takeSignals (m : Module ω) (r : Reading) :
    r.next m.takeSignals.2 = ((r.next m).1, (r.next m).2.1.takeSignals.2, (r.next m).2.2) := by
  cases r with
  | looking =>
    have hstale : m.takeSignals.2.isStale = m.isStale := rfl
    rw [next, next, hstale]
    split <;> rfl
  | waiting =>
    have hchanged : m.takeSignals.2.changed = m.changed := rfl
    rw [next, next, Module.claim?, Module.claim?, hchanged]
    cases m.changed <;> rfl
  | claimed =>
    have hformat : m.takeSignals.2.formats.get (Widget.format m.takeSignals.2.widget) =
      m.formats.get (Widget.format m.widget) := rfl
    simp only [next, Module.render, hformat]
    split <;> rfl
  | drawn text =>
    cases text with
    | ok text => rfl
    | error e =>
      have hhalt : m.takeSignals.2.control.halt? e.message = m.control.halt? e.message := rfl
      simp only [next, Module.act, hhalt]
      split <;> rfl
  | returning => rfl
  | done text => rfl

end Reading

/-! ### Other calls -/

namespace Module

variable {ω : Type}

/-- The module after a call to start it, with a main thread if there can be one. A module that has
been started before is left alone. -/
def launch (m : Module ω) (main : Option Schedule) : Module ω :=
  match m.control.start? with
  | none => m
  | some control => { m with control, main }

theorem launch_eq (m : Module ω) (main : Option Schedule) :
    m.launch main = if m.state = .constructed then
      { m with control := { m.control with state := .running }, main } else m := by
  cases h : m.control.state <;> simp [launch, Control.start?, state, h]

@[simp] theorem name_launch (m : Module ω) (main : Option Schedule) :
    (m.launch main).name = m.name := by
  unfold launch
  split <;> rfl

def accepts (m : Module ω) : Bool := m.handlesEvents && m.state != .halted

/-- What the widget makes of an action. -/
def handle [Widget ω] (m : Module ω) (now : Moment) (action data : String) :
    Reaction (Module ω) Panic Bool :=
  let r := Widget.input m.widget now action data
  ⟨{ m with widget := r.state }, r.result⟩

/-- An action that the module takes is handled by its widget, and then told of if the widget knows
it. -/
theorem input_eq [Widget ω] (m : Module ω) (now : Moment) (action data : String) :
    m.input now action data =
      if m.accepts then
        match m.handle now action data with
        | ⟨m, .ok true⟩ => ⟨told (m.act .mark), .ok true⟩
        | ⟨m, r⟩ => ⟨m, r⟩
      else ⟨m, .ok false⟩ := by
  have hrefuse : (!m.handlesEvents || m.state == .halted) = !m.accepts := by
    simp [accepts, bne, Bool.not_and]
  rw [input, hrefuse]
  cases m.accepts with
  | false => rfl
  | true =>
    simp only [Bool.not_true, Bool.false_eq_true, if_false, if_true, handle]
    rcases Widget.input m.widget now action data with ⟨widget, p | _ | _⟩ <;> rfl

/-- The first half of a stop, and whether there was something to stop. -/
def cancel (m : Module ω) : Module ω × Bool :=
  match m.control.cancel? with
  | none => (m, false)
  | some control => ({ m with control }, true)

/-- Who has been started can be stopped, and who has not is stopped at once. -/
theorem cancel_eq (m : Module ω) :
    m.cancel = match m.state with
      | .constructed => ({ m with control := { m.control with state := .stopped } }, true)
      | .running => ({ m with control := { m.control with state := .stopping } }, true)
      | .stopping | .stopped | .halted => (m, false) := by
  cases h : m.control.state <;> simp [cancel, Control.cancel?, state, h]

theorem state_cancel_ne_running (m : Module ω) : m.cancel.1.state ≠ .running := by
  rw [cancel_eq]
  cases h : m.control.state <;> simp [state, h]

/-- The second half of a stop, when the module is alone. The host is told if there was something to
stop, and no halt has come meanwhile. -/
def finish (m : Module ω) (cancelled : Bool) : Module ω × Option Signal :=
  if cancelled then
    let m := { m with control := m.control.finish?.getD m.control }
    (m, if m.state = .stopped then some (.stopped m.name) else none)
  else (m, none)

/-- A stop that was not disturbed tells of itself. -/
theorem finish_of_stopping {m : Module ω} (h : m.state = .stopping ∨ m.state = .stopped) :
    m.finish true =
      ({ m with control := { m.control with state := .stopped } }, some (.stopped m.name)) := by
  have hfinish : m.control.finish?.getD m.control = { m.control with state := .stopped } := by
    rcases h with h | h
    · simp [Control.finish?, show m.control.state = .stopping from h]
    · have hstopped : { m.control with state := .stopped } = m.control := by rw [← h]; rfl
      simp [Control.finish?, show m.control.state = .stopped from h, hstopped]
  simp only [finish, if_true, hfinish]
  rfl

/-- A halt wins over a stop. -/
theorem finish_of_halted {m : Module ω} (h : m.state = .halted) (cancelled : Bool) :
    m.finish cancelled = (m, none) := by
  cases cancelled with
  | false => rfl
  | true =>
    have hfinish : m.control.finish?.getD m.control = m.control := by
      simp [Control.finish?, show m.control.state = .halted from h]
    simp [finish, hfinish, h]

@[simp] theorem name_cancel (m : Module ω) : m.cancel.1.name = m.name := by
  unfold cancel
  split <;> rfl

@[simp] theorem name_finish (m : Module ω) (cancelled : Bool) :
    (m.finish cancelled).1.name = m.name := by
  cases cancelled <;> rfl

@[simp] theorem isAlone_finish (m : Module ω) (cancelled : Bool) :
    (m.finish cancelled).1.IsAlone ↔ m.IsAlone := by
  cases cancelled <;> exact Iff.rfl

/-- To stop is to cancel, to join the threads, and then to finish what was cancelled. -/
theorem stop_eq [Widget ω] (m : Module ω) (now : Moment) :
    m.stop now = told ((m.cancel.1.join now).finish m.cancel.2) := by
  cases h : m.control.cancel? with
  | none => simp [stop, cancel, finish, h, told]
  | some control =>
    simp only [stop, cancel, finish, h, if_true]
    split <;> simp [told, *]

theorem isAlone_stop [Widget ω] (m : Module ω) (now : Moment) : (m.stop now).IsAlone := by
  rw [stop_eq, isAlone_told, isAlone_finish]
  exact isAlone_join m.state_cancel_ne_running now

/-! ### What a step does to the life of a module -/

/-- What a step can do to the life of a module. A halt ends it, unless it is over, and a signal is
owed for that; no other step changes the state or owes a signal that tells of the end. -/
structure Fate (m : Module ω) (reason? : Option String) (r : Module ω × Option Signal) : Prop where
  name : r.1.name = m.name
  signals : r.1.signals = m.signals
  goesOn : reason? = none ∨ m.state.isTerminal = true →
    r.1.state = m.state ∧ r.1.control.reason = m.control.reason ∧ ∀ s ∈ r.2, s.isTerminal = false
  ends : ∀ reason, reason? = some reason → m.state.isTerminal = false →
    r.1.state = .halted ∧ r.1.control.reason = some reason ∧ r.2 = some (.halted m.name reason)

/-- Either nothing is to be ended, or it is over already, or this is the reason it ends for. -/
theorem goes_or_ends (m : Module ω) (reason? : Option String) :
    (reason? = none ∨ m.state.isTerminal = true) ∨
      ∃ reason, reason? = some reason ∧ m.state.isTerminal = false := by
  cases reason? with
  | none => exact .inl (.inl rfl)
  | some reason =>
    cases h : m.state.isTerminal with
    | true => exact .inl (.inr rfl)
    | false => exact .inr ⟨reason, rfl, rfl⟩

/-- A step that leaves the control alone, and owes no signal that tells of an end. -/
theorem Fate.of_control_eq {m : Module ω} {r : Module ω × Option Signal} (hname : r.1.name = m.name)
    (hsignals : r.1.signals = m.signals) (hstate : r.1.state = m.state)
    (hreason : r.1.control.reason = m.control.reason)
    (howed : ∀ s ∈ r.2, s.isTerminal = false) : Fate m none r where
  name := hname
  signals := hsignals
  goesOn _ := ⟨hstate, hreason, howed⟩
  ends _ h := by cases h

/-- A halt ends a module that is not over, with its message as the reason, and leaves one alone that
is. -/
theorem fate_halt (m : Module ω) (e : ModuleError) :
    Fate m (some e.message) (m.act (.halt e)) := by
  cases hterminal : m.state.isTerminal with
  | true =>
    have hkeep : m.act (.halt e) = (m, none) := by rw [act, halt?_of_terminal hterminal]
    rw [hkeep]
    exact ⟨rfl, rfl, fun _ => ⟨rfl, rfl, by simp⟩, by simp [hterminal]⟩
  | false =>
    have hhalt : m.act (.halt e) =
        ({ m with control := { m.control with state := .halted, reason := some e.message } },
          some (.halted m.name e.message)) := by
      rw [act, halt?_of_open hterminal]
    rw [hhalt]
    refine ⟨rfl, rfl, by simp [hterminal], fun reason hreason _ => ?_⟩
    cases hreason
    exact ⟨rfl, rfl, rfl⟩

/-- Whatever an action does to a module, its end is that of the reason the action has, if it has
one. -/
theorem fate_act (m : Module ω) (a : Act ω) : Fate m a.reason? (m.act a) := by
  cases a with
  | work widget => exact .of_control_eq rfl rfl rfl rfl (by simp [act])
  | wake => exact .of_control_eq rfl rfl rfl rfl (by simp [act])
  | mark => exact .of_control_eq rfl rfl rfl rfl (by simp [act, Signal.isTerminal])
  | halt e => exact fate_halt m e

/-- A reader on its way ends a module only where it settles a rendering that failed. -/
theorem fate_next [Widget ω] (m : Module ω) (r : Reading) : Fate m r.reason? (r.next m).2 := by
  have hstay : Fate m none (m, none) := .of_control_eq rfl rfl rfl rfl (by simp)
  cases r with
  | looking =>
    rw [Reading.next]
    split <;> exact hstay
  | waiting =>
    rw [Reading.next]
    cases h : m.claim? with
    | none => exact hstay
    | some m' =>
      simp only [claim?, Option.ite_none_right_eq_some, Option.some.injEq] at h
      obtain ⟨-, rfl⟩ := h
      exact .of_control_eq rfl rfl rfl rfl (by simp)
  | claimed =>
    simp only [Reading.next, render]
    split <;> exact .of_control_eq rfl rfl rfl rfl (by simp)
  | drawn text =>
    cases text with
    | ok text => exact .of_control_eq rfl rfl rfl rfl (by simp [Reading.next])
    | error e => exact fate_halt m e
  | returning => exact hstay
  | done text => exact hstay

end Module

end StatusBar
