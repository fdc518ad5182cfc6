/-!
# The lifecycle of a module

```text
constructed ──start──▶ running ──cancel──▶ stopping ──finish──▶ stopped
     │ │                  │                    │                   ▲
     │ └──────────────────┼──────cancel────────┼───────────────────┘
     └────────halt────────┴────────halt────────┴──▶ halted
```

`State.Next` is the picture as a relation, and `Control` is what the threads of a module share: the
state, the reason of a halt, and a counter of wake-ups. Each transition says whether it applies by
returning the control after it, or nothing.

A thread sleeps by looking at the control and at the clock again and again. `sleep` is what it makes
of what it sees.
-/

namespace StatusBar

/-- Where a module is in its life. -/
inductive State where
  | constructed
  | running
  /-- Told to stop, with threads that may still be at work. -/
  | stopping
  | stopped
  | halted
deriving Repr, DecidableEq, Inhabited

namespace State

def isTerminal : State → Bool
  | stopped | halted => true
  | _ => false

/-- The steps of the lifecycle. -/
inductive Next : State → State → Prop where
  | start : Next constructed running
  | cancel : Next running stopping
  | discard : Next constructed stopped
  | finish : Next stopping stopped
  | halt {s} : s.isTerminal = false → Next s halted

end State

/-- What all threads of a module share. -/
structure Control where
  state : State := .constructed
  /-- Counts the wake-ups, modulo 2^64. -/
  wakeups : UInt64 := 0
  /-- The reason of the halt, if there was one. -/
  reason : Option String := none
deriving Repr, DecidableEq, Inhabited

namespace Control

def isRunning (c : Control) : Bool := c.state == .running

/-- A module is started once. -/
def start? (c : Control) : Option Control :=
  match c.state with
  | .constructed => some { c with state := .running }
  | _ => none

/-- The first half of stopping. A module that never ran is stopped by it. -/
def cancel? (c : Control) : Option Control :=
  match c.state with
  | .running => some { c with state := .stopping }
  | .constructed => some { c with state := .stopped }
  | _ => none

/-- The second half of stopping, when no thread is left. -/
def finish? (c : Control) : Option Control :=
  match c.state with
  | .stopping => some { c with state := .stopped }
  | _ => none

/-- Halts a module that has not come to its end, and keeps the reason. -/
def halt? (c : Control) (reason : String) : Option Control :=
  if c.state.isTerminal then none else some { c with state := .halted, reason := some reason }

def wake (c : Control) : Control := { c with wakeups := c.wakeups + 1 }

end Control

/-! ### Sleeping -/

/-- What a sleeper sees in one pass: the control and the clock, in nanoseconds. -/
structure Observation where
  state : State
  wakeups : UInt64
  now : Nat
deriving Repr, DecidableEq

/-- The last moment the clock can tell: it has 63 bits for the seconds. -/
def endOfTime : Nat := 0x8000000000000000 * 1000000000 - 1

/-- When a sleep of some nanoseconds ends, unless the clock cannot tell. -/
def deadline? (start duration : Nat) : Option Nat :=
  if start + duration ≤ endOfTime then some (start + duration) else none

/-- What a sleeper decides in one pass: `false` if it was woken or the module does not run, `true`
if its time has passed, and otherwise nothing. -/
def Observation.decide? (deadline : Option Nat) (generation : UInt64) (o : Observation) :
    Option Bool :=
  if o.state ≠ .running ∨ o.wakeups ≠ generation then some false
  else if deadline.any (· ≤ o.now) then some true
  else none

/-- Milliseconds a thread sleeps between two looks at something. -/
def idlePause : Nat := 25

/-- The outcome of a sleep that sees the given passes, or nothing if it goes on. `generation` is
the counter of wake-ups when the sleep began. -/
def sleep (deadline : Option Nat) (generation : UInt64) (passes : List Observation) :
    Option Bool :=
  passes.findSome? (Observation.decide? deadline generation)

end StatusBar
