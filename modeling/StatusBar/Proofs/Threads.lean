import Mathlib.Logic.Relation
import StatusBar.Module.Thread

/-!
# What threads do to a module

A thread reaches a module through few operations, and each of them is at most two steps: a change
under a lock, and after it a signal to the host. `Act` lists the changes, and `act` carries one out
and says which signal is owed for it. Between the two steps other threads go on.

The operations of a module that take both steps at once are runs of such changes, each told without
delay (`Goes`). So whatever every change keeps, all of them keep.
-/

namespace StatusBar

open Clock (Moment)
open Relation (ReflTransGen)

/-- A change that a thread makes to a module under one lock. -/
inductive Act (ω : Type) where
  /-- Changes the widget, which nobody else uses meanwhile. -/
  | work (widget : ω)
  /-- Wakes all threads of the module. -/
  | wake
  /-- The first half of a broadcast. -/
  | mark
  /-- The first half of a failure. -/
  | halt (error : ModuleError)

namespace Module

variable {ω : Type}

/-- The module after a change, and the signal that is owed to the host for it. -/
def act (m : Module ω) : Act ω → Module ω × Option Signal
  | .work widget => ({ m with widget }, none)
  | .wake => ({ m with control := m.control.wake }, none)
  | .mark => ({ m with changed := true }, some (.changed m.name))
  | .halt e =>
    match m.control.halt? e.message with
    | none => (m, none)
    | some control => ({ m with control }, some (.halted m.name e.message))

/-- The module when the owed signal is sent. -/
def told : Module ω × Option Signal → Module ω
  | (m, none) => m
  | (m, some s) => m.emit s

theorem told_mark (m : Module ω) : told (m.act .mark) = m.broadcast := rfl

theorem told_halt (m : Module ω) (e : ModuleError) : told (m.act (.halt e)) = m.fail e := by
  cases h : m.control.halt? e.message <;> simp only [act, fail, h, told]

theorem halt?_of_terminal {m : Module ω} (h : m.state.isTerminal = true) (reason : String) :
    m.control.halt? reason = none := if_pos h

/-- A module before its end can be halted, and keeps the reason. -/
theorem halt?_of_open {m : Module ω} (h : m.state.isTerminal = false) (reason : String) :
    m.control.halt? reason = some { m.control with state := .halted, reason := some reason } := by
  have hopen : ¬ m.control.state.isTerminal = true := by
    show ¬ m.state.isTerminal = true
    simp [h]
  exact if_neg hopen

/-- No change by a thread touches what is shown. -/
theorem cached_act (m : Module ω) (a : Act ω) : (m.act a).1.cached = m.cached := by
  cases a with
  | work | wake | mark => rfl
  | halt e =>
    rw [act]
    split <;> rfl

/-- A halt does not touch the mark. -/
theorem changed_act_halt (m : Module ω) (e : ModuleError) :
    (m.act (.halt e)).1.changed = m.changed := by
  rw [act]
  split <;> rfl

/-- Whether no thread of the module is still at work. -/
def IsAlone (m : Module ω) : Prop := m.main = none ∧ ∀ w ∈ m.workers, w.isDone = true

theorem not_isAlone_of_main {m : Module ω} (h : m.main ≠ none) : ¬ m.IsAlone := fun ha => h ha.1

theorem not_isAlone_of_worker {m : Module ω} {w : Worker ω} (hw : w ∈ m.workers)
    (h : w.isDone = false) : ¬ m.IsAlone := by
  intro ha
  rw [ha.2 w hw] at h
  cases h

@[simp] theorem isAlone_told (r : Module ω × Option Signal) : (told r).IsAlone ↔ r.1.IsAlone := by
  obtain ⟨m, _ | s⟩ := r <;> exact Iff.rfl

/-- What is told goes behind the signals that have been sent. -/
theorem signals_told (r : Module ω × Option Signal) :
    (told r).signals = r.1.signals ++ r.2.toList := by
  obtain ⟨m, _ | s⟩ := r
  · exact (List.append_nil _).symm
  · rfl

theorem takeSignals_told (r : Module ω × Option Signal) :
    (told r).takeSignals.2 = r.1.takeSignals.2 := by
  obtain ⟨m, _ | s⟩ := r <;> rfl

/-- The threads go on without being disturbed: one of them changes the module and tells the host at
once, or one of those still at work notes how far it has come. -/
inductive Goes : Module ω → Module ω → Prop where
  | act {m : Module ω} (a : Act ω) : Goes m (told (m.act a))
  | note {m : Module ω} (main : Option Schedule) (workers : List (Worker ω)) :
      ¬ m.IsAlone → Goes m { m with main, workers }

/-- Any number of undisturbed steps. -/
abbrev Go : Module ω → Module ω → Prop := ReflTransGen Goes

theorem go_work (m : Module ω) (widget : ω) : Go m { m with widget } :=
  .single (.act (.work widget))

theorem go_broadcast (m : Module ω) : Go m m.broadcast := told_mark m ▸ .single (.act .mark)

theorem go_fail (m : Module ω) (e : ModuleError) : Go m (m.fail e) :=
  told_halt m e ▸ .single (.act (.halt e))

/-- The main thread ends, if there is one. -/
theorem go_endMain (m : Module ω) : Go m { m with main := none } := by
  by_cases h : m.main = none
  · have heq : { m with main := none } = m := by rw [← h]
    rw [heq]
  · exact .single (.note none m.workers (not_isAlone_of_main h))

theorem go_abandon (m : Module ω) (f : Failure) : Go m (m.abandon f) :=
  (go_endMain m).trans (go_fail _ f.toError)

/-- No change makes a module run. -/
theorem state_act (m : Module ω) (a : Act ω) :
    (m.act a).1.state = m.state ∨ (m.act a).1.state = .halted := by
  cases a with
  | halt e =>
    cases h : m.control.halt? e.message with
    | none => exact .inl (by rw [act, h])
    | some control =>
      right
      rw [act, h]
      unfold Control.halt? at h
      split at h
      · cases h
      · cases h
        rfl
  | work | wake | mark => exact .inl rfl

@[simp] theorem state_told (r : Module ω × Option Signal) : (told r).state = r.1.state := by
  obtain ⟨m, _ | s⟩ := r <;> rfl

/-- Threads leave the state alone or halt the module. -/
theorem Go.state {m m' : Module ω} (h : Go m m') : m'.state = m.state ∨ m'.state = .halted := by
  induction h with
  | refl => exact .inl rfl
  | tail _ hstep ih =>
    cases hstep with
    | act a =>
      rw [state_told]
      rcases state_act _ a with hkeep | hhalt
      · rw [hkeep]
        exact ih
      · exact .inr hhalt
    | note => exact ih

theorem Go.state_ne_running {m m' : Module ω} (h : Go m m') (hm : m.state ≠ .running) :
    m'.state ≠ .running := by
  rcases h.state with hkeep | hhalt
  · rwa [hkeep]
  · simp [hhalt]

/-! ### The main thread -/

variable [Widget ω]

/-- A refresh is something that threads do. -/
theorem go_refreshWidget (m : Module ω) (now : Moment) : Go m (m.refreshWidget now) := by
  have hwork : Go m (m.update now).state := go_work m _
  unfold refreshWidget
  split
  · rename_i h
    rw [h] at hwork
    exact hwork.trans (go_broadcast _)
  · rename_i h
    rw [h] at hwork
    exact hwork
  · rename_i f h
    rw [h] at hwork
    exact hwork.trans (go_abandon _ f)

/-- So is a turn of the main thread. -/
theorem go_pass (m : Module ω) (now : Moment) : Go m (m.pass now) := by
  unfold pass
  split
  · exact go_endMain m
  · split
    · exact .refl
    · exact .refl
    · exact go_refreshWidget m now
    · split
      · exact (go_work m _).trans (go_refreshWidget _ now)
      · exact go_work m _
      · exact (go_work m _).trans (go_abandon _ _)

/-- What the main thread does first it does as a thread of the module. -/
theorem go_begin (m : Module ω) (now : Moment) :
    ∃ schedule, Go { m with main := some schedule } (m.begin now) := by
  unfold begin
  split
  · rename_i p h
    refine ⟨.static, ?_⟩
    exact go_abandon { m with main := some .static } (.panic p)
  · refine ⟨.static, (go_work _ (m.update now).state.widget).trans ?_⟩
    split
    · rename_i m' _ h
      have hstate : m' = (m.update now).state := by rw [h]
      subst hstate
      refine (go_broadcast _).trans (.single (.note m.main m.workers ?_))
      exact not_isAlone_of_main (by simp [broadcast, emit])
    · rename_i m' f h
      have hstate : m' = (m.update now).state := by rw [h]
      subst hstate
      exact go_abandon { (m.update now).state with main := some .static } f
  · rename_i seconds h
    exact ⟨.interval seconds, go_pass _ now⟩
  · rename_i idle h
    exact ⟨.event idle, .refl⟩

theorem go_wakeup (m : Module ω) (now : Moment) : Go m (m.wakeup now) :=
  .head (.act .wake) (go_pass _ now)

end Module

end StatusBar
