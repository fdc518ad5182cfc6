import StatusBar.Lifecycle
import StatusBar.Widget.Basic

/-!
# Workers

A module can have auxiliary threads beside its main thread. A worker is given by its script: the
actions it is going to take on the module, one after the other. To each action it gets an answer,
which it keeps. The script ends early with a panic.

A worker that rests goes on when it is woken or when the module does not run any more.
-/

namespace StatusBar

/-- What a worker can do to its module. -/
inductive Action (ω : Type) where
  /-- Changes the widget, while nobody else uses it. -/
  | update (change : ω → Reaction ω Panic Unit)
  | broadcast
  | halt (reason : String)
  /-- Wakes all threads of the module. -/
  | wakeup
  | isRunning
  | name
  /-- Sleeps for a time in which nothing happens. -/
  | pause
  /-- Sleeps until it is woken. -/
  | rest
  | panic (panic : Panic)

inductive Answer where
  | done
  | truth (value : Bool)
  | name (value : String)
deriving Repr, DecidableEq, Inhabited

/-- What becomes of a worker by one action. -/
inductive Outcome where
  | answered (answer : Answer)
  | resting
  | panicked (panic : Panic)
deriving Repr, DecidableEq, Inhabited

/-- An auxiliary thread. -/
structure Worker (ω : Type) where
  name : String
  /-- The actions to come. A worker that rests has its rest at the head. -/
  script : List (Action ω)
  /-- The answers so far, in order. -/
  answers : List Answer := []
  /-- While it rests, the count of wake-ups from when it lay down. -/
  restingSince : Option UInt64 := none

namespace Worker

def isDone (w : Worker ω) : Bool := w.script.isEmpty

def isResting (w : Worker ω) : Bool := w.restingSince.isSome

/-- The worker after an action with the given outcome, where the count of wake-ups is `wakeups`. -/
def after (w : Worker ω) (wakeups : UInt64) : Outcome → Worker ω
  | .answered a =>
    { w with script := w.script.tail, answers := w.answers ++ [a], restingSince := none }
  | .resting => { w with restingSince := some wakeups }
  | .panicked _ => { w with script := [], restingSince := none }

/-- A bound for the number of steps that are left: each action is taken once, and may be a rest to
lie down for before. -/
def pending (w : Worker ω) : Nat := 2 * w.script.length

/-- The sum of a measure over some workers. -/
def total (measure : Worker ω → Nat) (workers : List (Worker ω)) : Nat :=
  workers.foldr (measure · + ·) 0

end Worker

end StatusBar
