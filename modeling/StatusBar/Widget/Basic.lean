import StatusBar.Clock.Pattern
import StatusBar.Formats

/-!
# Widgets

A widget is the part of a module that knows what is shown: it holds state, refreshes it and turns
it into text. The module around it does the rest, and never lets two of the widget's operations run
at the same time.

Any operation but `kind` and `format` may panic. A panic does not undo what the operation has done
to the state so far.
-/

namespace StatusBar

open Clock (Moment)

/-- How the main thread of a module calls `Widget.update`. -/
inductive Schedule where
  /-- Once. -/
  | static
  /-- At the start, and then again and again with pauses of some seconds. -/
  | interval (seconds : Nat)
  /-- Whenever `Widget.hasEvent` reports something, looking every few milliseconds. -/
  | event (idle : Nat)
deriving Repr, DecidableEq, Inhabited

/-- What comes of an operation that changes a state `σ`: the state afterwards, and a result unless
the operation failed. -/
structure Reaction (σ ε α : Type) where
  state : σ
  result : Except ε α

/-- The reaction with a failure seen in another way. -/
def Reaction.mapError (f : ε → ε') (r : Reaction σ ε α) : Reaction σ ε' α :=
  ⟨r.state, r.result.mapError f⟩

/-- The operations of a widget with state `ω`. -/
class Widget (ω : Type) where
  /-- The kind users write in the configuration. -/
  kind : ω → String
  /-- The name of the format to show. -/
  format : ω → String := fun _ => Formats.defaultName
  schedule : ω → Except Panic Schedule := fun _ => .ok .static
  /-- Adds the content of a tag to the markup. A result of `false` hides the tag. -/
  build : ω → (tag : String) → Markup → Fragment
  /-- Refreshes the state. The result says whether the output may have changed. -/
  update : ω → Moment → Reaction ω Failure Bool := fun w _ => ⟨w, .ok true⟩
  /-- Looks for an event. -/
  hasEvent : ω → Reaction ω Panic Bool := fun w => ⟨w, .ok false⟩
  /-- Handles an action with its data. The result says whether the action is known. -/
  input : ω → Moment → (action data : String) → Reaction ω Panic Bool :=
    fun w _ _ _ => ⟨w, .ok false⟩

/-- How a widget is built from the table at a path: its state and the formats it can show, or the
reason why it cannot be built. -/
abbrev Construction (ω : Type) := Config → (path : String) → Except ModuleError (ω × Formats)

end StatusBar
