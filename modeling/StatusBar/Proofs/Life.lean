import StatusBar.Proofs.Calls
import StatusBar.Proofs.Operation

/-!
# The life of a module

A module has an owner, who starts it, stops it and drops it in the end. Meanwhile its threads are at
work on it, and so is everybody else who has a handle on it; some ask for its content. `Life` is
what there is of all this at one moment, and a `Step` takes one of the parties one step further. A
change and the signal for it are two steps, and so are the halves of a stop.

The threads are free to do more here than they do: any change at any time, and a signal may be sent
later than its thread has ended. What is done to a module with one operation after the other is a
run of such steps, see `leads_after`.
-/

namespace StatusBar

open Clock (Moment)
open Relation (ReflTransGen)

/-- What the owner of a module is about. -/
inductive Owner where
  | free
  /-- Waits until the module is alone. There has been something to stop or not, and it may be the
  last that the owner does. -/
  | stopping (cancelled last : Bool)
  /-- Has dropped the module. -/
  | gone
deriving DecidableEq

/-- A module with all that is under way. -/
structure Life (ω : Type) where
  module : Module ω
  /-- The signals that are still to be sent. -/
  owed : List Signal := []
  /-- The calls for the content. -/
  readings : List Reading := []
  owner : Owner := .free
  /-- All halts that were tried, the oldest first, each with the state it met and its reason. -/
  tries : List (State × String) := []

namespace Life

variable {ω : Type}

/-- The life after a step that may try to halt the module. -/
def becomes (l : Life ω) (reason? : Option String) (r : Module ω × Option Signal) : Life ω :=
  { l with
    module := r.1
    owed := l.owed ++ r.2.toList
    tries := l.tries ++ reason?.toList.map (l.module.state, ·) }

@[simp] theorem becomes_self (l : Life ω) : l.becomes none (l.module, none) = l := by
  simp [becomes]

/-- Whether somebody keeps the widget to draw it. -/
def IsHeld (readings : List Reading) : Prop := ∃ r ∈ readings, r.holdsWidget = true

variable [Widget ω]

/-- One of the parties goes one step further. -/
inductive Step : Life ω → Life ω → Prop where
  /-- Somebody with a handle changes the module, but not the widget while it is drawn. A halt by the
  owner is such a change, followed by a stop. -/
  | act {l : Life ω} (a : Act ω) :
      (∀ widget, a = .work widget → ¬ IsHeld l.readings) →
      Step l (l.becomes a.reason? (l.module.act a))
  /-- The threads of the module come further. -/
  | note {l : Life ω} (main : Option Schedule) (workers : List (Worker ω)) :
      ¬ l.module.IsAlone → Step l { l with module := { l.module with main, workers } }
  /-- Somebody sends a signal. -/
  | send {l : Life ω} (before after : List Signal) {s : Signal} :
      l.owed = before ++ s :: after →
      Step l { l with module := l.module.emit s, owed := before ++ after }
  /-- Somebody asks for the content. -/
  | call {l : Life ω} : Step l { l with readings := l.readings ++ [.looking] }
  | read {l : Life ω} (before after : List Reading) {r : Reading} :
      l.readings = before ++ r :: after → (r = .waiting → ¬ IsHeld (before ++ after)) →
      Step l { l.becomes r.reason? (r.next l.module).2 with
        readings := before ++ (r.next l.module).1 :: after }
  /-- Somebody gets the content. -/
  | answer {l : Life ω} (before after : List Reading) {text : String} :
      l.readings = before ++ .done text :: after → Step l { l with readings := before ++ after }
  /-- The owner starts the module. -/
  | start {l : Life ω} (main : Option Schedule) :
      l.owner = .free → Step l { l with module := l.module.launch main }
  | spawn {l : Life ω} (name : String) (script : List (Action ω)) :
      l.owner = .free → Step l { l with module := l.module.spawn name script }
  /-- The owner begins to stop the module, or to drop it. -/
  | stop {l : Life ω} (last : Bool) :
      l.owner = .free →
      Step l { l with module := l.module.cancel.1, owner := .stopping l.module.cancel.2 last }
  /-- The owner has waited long enough. -/
  | join {l : Life ω} {cancelled last : Bool} :
      l.owner = .stopping cancelled last → l.module.IsAlone →
      Step l
        { l.becomes none (l.module.finish cancelled) with owner := if last then .gone else .free }

abbrev Run : Life ω → Life ω → Prop := ReflTransGen Step

/-! ### One operation after the other -/

/-- Nothing is under way before and after a run from `m` to `m'`. -/
def Leads (owner owner' : Owner) (m m' : Module ω) : Prop :=
  ∀ tries, ∃ tries',
    Run { module := m, owner, tries } { module := m', owner := owner', tries := tries' }

theorem Leads.refl (owner : Owner) (m : Module ω) : Leads owner owner m m := fun tries =>
  ⟨tries, .refl⟩

theorem Leads.trans {o₁ o₂ o₃ : Owner} {m₁ m₂ m₃ : Module ω} (h : Leads o₁ o₂ m₁ m₂)
    (h' : Leads o₂ o₃ m₂ m₃) : Leads o₁ o₃ m₁ m₃ := by
  intro tries
  obtain ⟨tries', hrun⟩ := h tries
  obtain ⟨tries'', hrun'⟩ := h' tries'
  exact ⟨tries'', hrun.trans hrun'⟩

/-- The signal of a step is sent at once. -/
theorem run_tell {l : Life ω} (howed : l.owed = []) (reason? : Option String)
    (r : Module ω × Option Signal) :
    Run (l.becomes reason? r)
      { l with module := Module.told r, tries := (l.becomes reason? r).tries } := by
  obtain ⟨m, _ | s⟩ := r
  · have hnothing : l.becomes reason? (m, none) =
        { l with module := m, tries := (l.becomes reason? (m, none)).tries } := by
      simp [becomes, howed]
    rw [hnothing]
    exact .refl
  · have hsend := Step.send (l := l.becomes reason? (m, some s)) [] [] (s := s)
      (by simp [becomes, howed])
    rw [List.append_nil, ← howed] at hsend
    exact .single hsend

/-- A thread that goes on is a run of steps, whoever owns the module. -/
theorem leads_go {m m' : Module ω} (h : Module.Go m m') (owner : Owner) :
    Leads owner owner m m' := by
  induction h with
  | refl => exact .refl owner m
  | tail _ hstep ih =>
    refine ih.trans fun tries => ?_
    cases hstep with
    | act a => exact ⟨_, .head (.act a (by simp [IsHeld])) (run_tell rfl a.reason? _)⟩
    | note main workers hthreads => exact ⟨tries, .single (.note main workers hthreads)⟩

/-- One call for the content goes on without being disturbed. -/
theorem run_advance (r : Reading) (m : Module ω) (owner : Owner) (tries : List (State × String)) :
    ∃ tries', Run { module := m, readings := [r], owner, tries }
      { module := (Reading.advance (r, m)).2, readings := [(Reading.advance (r, m)).1], owner,
        tries := tries' } := by
  let l : Life ω := { module := m, readings := [r], owner, tries }
  have hread := Step.read (l := l) [] [] (r := r) rfl (by simp [IsHeld])
  have htell := run_tell (l := { l with readings := [(r.next m).1] }) rfl r.reason? (r.next m).2
  exact ⟨_, .head hread htell⟩

/-- A reader takes any number of steps while it is the only one. -/
theorem run_advance_iterate (n : Nat) (r : Reading) (m : Module ω) (owner : Owner)
    (tries : List (State × String)) :
    ∃ tries', Run { module := m, readings := [r], owner, tries }
      { module := (Reading.advance^[n] (r, m)).2, readings := [(Reading.advance^[n] (r, m)).1],
        owner, tries := tries' } := by
  induction n with
  | zero => exact ⟨tries, .refl⟩
  | succ n ih =>
    obtain ⟨tries', hrun⟩ := ih
    rw [Function.iterate_succ_apply']
    let before := Reading.advance^[n] (r, m)
    obtain ⟨tries'', hrun'⟩ := run_advance before.1 before.2 owner tries'
    exact ⟨tries'', hrun.trans hrun'⟩

/-- To ask for the content is such a run. -/
theorem leads_content (m : Module ω) (owner : Owner) : Leads owner owner m m.content.2 := by
  intro tries
  obtain ⟨tries', hrun⟩ := run_advance_iterate 5 .looking m owner tries
  rw [Reading.advance_content m] at hrun
  let l : Life ω :=
    { module := m.content.2, readings := [.done m.content.1], owner, tries := tries' }
  have hanswer := Step.answer (l := l) [] [] rfl
  exact ⟨tries', .head .call (hrun.tail hanswer)⟩

/-- So is a start. -/
theorem leads_start (m : Module ω) (now : Moment) : Leads .free .free m (m.start now) := by
  unfold Module.start
  split
  · exact .refl _ _
  · rename_i control h
    obtain ⟨schedule, hgo⟩ := Module.go_begin { m with control } now
    have hlaunch : m.launch (some schedule) = { m with control, main := some schedule } := by
      rw [Module.launch, h]
    have hstart : Leads .free .free m (m.launch (some schedule)) := fun tries =>
      ⟨tries, .single (.start (some schedule) rfl)⟩
    rw [hlaunch] at hstart
    exact hstart.trans (leads_go hgo .free)

/-- A stop is a run of its two halves. If it is the last one the owner drops the module. -/
theorem leads_stop (m : Module ω) (now : Moment) (last : Bool) :
    Leads .free (if last then .gone else .free) m (m.stop now) := by
  have hcancel : Leads .free (.stopping m.cancel.2 last) m m.cancel.1 := fun tries =>
    ⟨tries, .single (.stop last rfl)⟩
  have hwait := hcancel.trans (leads_go (Module.go_join m.cancel.1 now) _)
  refine hwait.trans fun tries => ?_
  rw [Module.stop_eq]
  let l : Life ω :=
    { module := m.cancel.1.join now, owner := .stopping m.cancel.2 last, tries }
  have halone : l.module.IsAlone := Module.isAlone_join m.state_cancel_ne_running now
  have hjoin := Step.join (l := l) rfl halone
  have htell := run_tell (l := { l with owner := if last then .gone else .free }) rfl none
    (l.module.finish m.cancel.2)
  exact ⟨_, .head hjoin htell⟩

/-- An operation is a run that begins and ends with nothing under way. -/
theorem leads_apply (m : Module ω) (op : Operation ω) : Leads .free .free m (op.apply m) := by
  cases op with
  | start now => exact leads_start m now
  | pass now => exact leads_go (m.go_pass now) .free
  | wakeup now => exact leads_go (m.go_wakeup now) .free
  | stop now => exact leads_stop m now false
  | halt now reason => exact (leads_go (m.go_fail _) .free).trans (leads_stop _ now false)
  | broadcast => exact leads_go m.go_broadcast .free
  | input now action data => exact leads_go (m.go_input now action data) .free
  | change widget => exact leads_go (m.go_work widget) .free
  | fail e => exact leads_go (m.go_fail e) .free
  | spawn name script => exact fun tries => ⟨tries, .single (.spawn name script rfl)⟩
  | work now i =>
    cases h : m.workerStep? now i with
    | none => simpa [Operation.apply, h] using Leads.refl .free m
    | some m' => simpa [Operation.apply, h] using leads_go (Module.go_workerStep? h) .free
  | content => exact leads_content m .free

/-- **What operations do is what a run does.** -/
theorem leads_after (m : Module ω) (ops : List (Operation ω)) :
    Leads .free .free m (m.after ops) := by
  induction ops generalizing m with
  | nil => exact .refl .free m
  | cons op ops ih => exact (leads_apply m op).trans (ih (op.apply m))

/-- Some operations, and then the drop. -/
theorem leads_drop (m : Module ω) (ops : List (Operation ω)) (now : Moment) :
    Leads .free .gone m ((m.after ops).stop now) :=
  (leads_after m ops).trans (leads_stop _ now true)

end Life

end StatusBar
