import StatusBar.Module.Basic

/-!
# The threads of a module

The main thread calls `Widget.update` after the widget's schedule, and broadcasts what may have
changed. It ends with the first failure, which halts the module, and when the module does not run
any more. One turn of it is `pass`.

A worker takes one action of its script after the other, and one such step is `workerStep?`. When
several workers can go on, any order is possible; `atRest` lets one go on as long as it can, and
then the oldest that can, until all of them rest or are done.
-/

namespace StatusBar.Module

open Clock (Moment)

variable {ω : Type} [Widget ω]

/-! ### The main thread -/

/-- Refreshes the widget. -/
def update (m : Module ω) (now : Moment) : Reaction (Module ω) Failure Bool :=
  let r := Widget.update m.widget now
  ⟨{ m with widget := r.state }, r.result⟩

/-- Ends the main thread with a failure. -/
def abandon (m : Module ω) (f : Failure) : Module ω := { m with main := none }.fail f.toError

/-- Updates the widget, and broadcasts if something may have changed. -/
def refreshWidget (m : Module ω) (now : Moment) : Module ω :=
  match m.update now with
  | ⟨m, .ok true⟩ => m.broadcast
  | ⟨m, .ok false⟩ => m
  | ⟨m, .error f⟩ => m.abandon f

/-- One turn of the main thread, at the end of its pause. -/
def pass (m : Module ω) (now : Moment) : Module ω :=
  if !m.isRunning then { m with main := none }
  else
    match m.main with
    | none | some .static => m
    | some (.interval _) => m.refreshWidget now
    | some (.event _) =>
      match Widget.hasEvent m.widget with
      | ⟨widget, .ok true⟩ => { m with widget }.refreshWidget now
      | ⟨widget, .ok false⟩ => { m with widget }
      | ⟨widget, .error p⟩ => { m with widget }.abandon (.panic p)

/-- What the main thread does first. A static widget is updated once, and that counts as a
change. -/
def begin (m : Module ω) (now : Moment) : Module ω :=
  match Widget.schedule m.widget with
  | .error p => m.abandon (.panic p)
  | .ok .static =>
    match m.update now with
    | ⟨m, .ok _⟩ => m.broadcast
    | ⟨m, .error f⟩ => m.abandon f
  | .ok (.interval seconds) => { m with main := some (.interval seconds) }.pass now
  | .ok (.event idle) => { m with main := some (.event idle) }

/-- Starts the main thread. A module is started once. -/
def start (m : Module ω) (now : Moment) : Module ω :=
  match m.control.start? with
  | none => m
  | some control => { m with control }.begin now

/-- Wakes all threads. The main thread cuts its pause short. -/
def wakeup (m : Module ω) (now : Moment) : Module ω :=
  { m with control := m.control.wake }.pass now

/-! ### Workers -/

/-- Whether a thread that lay down at some count of wake-ups goes on. -/
def isWoken (m : Module ω) (since : UInt64) : Bool :=
  (Observation.decide? none since ⟨m.state, m.control.wakeups, 0⟩).isSome

/-- What one action does to the module, and to the worker that takes it. -/
def perform (m : Module ω) (now : Moment) (restingSince : Option UInt64) :
    Action ω → Module ω × Outcome
  | .update change =>
    match change m.widget with
    | ⟨widget, .ok ()⟩ => ({ m with widget }, .answered .done)
    | ⟨widget, .error p⟩ => ({ m with widget }, .panicked p)
  | .broadcast => (m.broadcast, .answered .done)
  | .halt reason => (m.fail (.failed reason), .answered .done)
  | .wakeup => (m.wakeup now, .answered .done)
  | .isRunning => (m, .answered (.truth m.isRunning))
  | .name => (m, .answered (.name m.name))
  | .pause => (m, .answered (.truth m.isRunning))
  | .rest =>
    if m.isWoken (restingSince.getD m.control.wakeups) then (m, .answered (.truth false))
    else (m, .resting)
  | .panic p => (m, .panicked p)

/-- One step of the `i`th worker, if it can go on. A panic halts the module. -/
def workerStep? (m : Module ω) (now : Moment) (i : Nat) : Option (Module ω) := do
  let w ← m.workers[i]?
  let action ← w.script.head?
  let (after, outcome) := m.perform now w.restingSince action
  if outcome = .resting ∧ w.isResting then none
  let after := { after with workers := m.workers.set i (w.after m.control.wakeups outcome) }
  match outcome with
  | .panicked p => return after.fail (.panicked p.message)
  | _ => return after

/-- One step of a worker that can go on, and which worker it was: the `i`th if possible, and else
the oldest. -/
def anyStep? (m : Module ω) (now : Moment) (i : Nat) : Option (Nat × Module ω) :=
  (i :: List.range m.workers.length).findSome? fun j => (j, ·) <$> m.workerStep? now j

/-- At most `fuel` steps of workers, beginning with the `i`th. -/
def run (now : Moment) : (fuel i : Nat) → Module ω → Module ω
  | 0, _, m => m
  | fuel + 1, i, m =>
    match m.anyStep? now i with
    | none => m
    | some (j, m) => run now fuel j m

/-- The module when no worker can go on. -/
def atRest (m : Module ω) (now : Moment) : Module ω :=
  run now (Worker.total Worker.pending m.workers) 0 m

def spawn (m : Module ω) (name : String) (script : List (Action ω)) : Module ω :=
  { m with workers := m.workers ++ [{ name, script }] }

/-! ### The end -/

/-- Waits for all threads. -/
def join (m : Module ω) (now : Moment) : Module ω := { m.atRest now with main := none }

/-- Stops the module and waits for its threads. A halt that comes meanwhile wins; otherwise the host
is told that the module has stopped. -/
def stop (m : Module ω) (now : Moment) : Module ω :=
  match m.control.cancel? with
  | none => m.join now
  | some control =>
    let m := { m with control }.join now
    let m := { m with control := m.control.finish?.getD m.control }
    if m.state = .stopped then m.emit (.stopped m.name) else m

/-- Halts the module with a reason of the host, and waits for its threads. -/
def halt (m : Module ω) (now : Moment) (reason : String) : Module ω :=
  (m.fail (.failed reason)).stop now

/-! ### Actions of the user -/

/-- Hands an action to the widget. An action that the widget knows counts as a change. A panic is
passed on to the host. -/
def input (m : Module ω) (now : Moment) (action data : String) :
    Reaction (Module ω) Panic Bool :=
  if !m.handlesEvents || m.state == .halted then ⟨m, .ok false⟩
  else
    match Widget.input m.widget now action data with
    | ⟨widget, .ok true⟩ => ⟨{ m with widget }.broadcast, .ok true⟩
    | ⟨widget, r⟩ => ⟨{ m with widget }, r⟩

end StatusBar.Module
