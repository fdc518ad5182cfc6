import StatusBar.Widget.Basic

/-!
# The clock widget

Shows the date and the time after two patterns, inside a label with the tokens `%date%` and
`%time%`. The action `toggle` turns to a second pair of patterns and back.

The patterns are checked when the widget is built. The permissive offset `%#z` passes the check
although nothing can be written for it: a clock with such a pattern panics as soon as it is
refreshed. So does every clock at a moment that has no date.
-/

namespace StatusBar

open Clock (Moment)

/-- A text or a pattern for the date, and one for the time. -/
structure ClockFace where
  date : String := ""
  time : String := ""
deriving Repr, DecidableEq, Inhabited

/-- The face that a pair of patterns gives at a moment, if both can be written. -/
def ClockFace.at? (patterns : ClockFace) (now : Moment) : Option ClockFace := do
  let date ← Clock.format? patterns.date now
  let time ← Clock.format? patterns.time now
  return { date, time }

/-- A clock with two pairs of patterns. -/
structure ClockWidget where
  /-- Seconds between two refreshes. -/
  interval : Nat
  patterns : ClockFace
  alternate : ClockFace
  label : Label
  /-- Whether the alternate patterns are in use. -/
  toggled : Bool := false
  /-- What is shown. -/
  shown : ClockFace := {}
deriving Repr, DecidableEq, Inhabited

namespace ClockWidget

def kind : String := "internal/date"

/-- The pattern at a key, or the fallback if the key is missing. -/
def pattern (c : Config) (path key fallback : String) : Except ConfigError String := do
  let text ← c.getOr .string path key fallback
  if Clock.Item.isValid text then return text
  else throw (.invalidValue path key s!"'{text}' is not a valid strftime format")

/-- The clock described at a path. It is refreshed once a second at most. -/
def new : Construction ClockWidget := fun c path => do
  let formats ← ({} : Formats).add c path Formats.defaultName "<label>" ["label"] []
  let date ← pattern c path "date" "%Y-%m-%d"
  let time ← pattern c path "time" "%H:%M:%S"
  let alternateDate ← pattern c path "date-alt" date
  let alternateTime ← pattern c path "time-alt" time
  let label := (← Label.load c path "label" (some "%date% %time%")).getD {}
  let interval ← c.getOr .u64 path "interval" 1
  let clock := {
    interval := max interval 1, patterns := ⟨date, time⟩
    alternate := ⟨alternateDate, alternateTime⟩, label }
  return (clock, formats)

/-- The patterns in use. -/
def active (w : ClockWidget) : ClockFace := if w.toggled then w.alternate else w.patterns

/-- The panic of a pattern that cannot be written. -/
def unwritable : Panic := .text "a Display implementation returned an error unexpectedly: Error"

/-- The panic of a moment that has no date. -/
def undated : Panic := .text "called `Option::unwrap()` on a `None` value"

/-- What to show at a moment. -/
def faceAt (w : ClockWidget) (now : Moment) : Except Panic ClockFace :=
  if now.isDated then (w.active.at? now).elim (.error unwritable) .ok else .error undated

/-- Shows the date and time of a moment. The result says whether they differ from what was shown
before. -/
def refresh (w : ClockWidget) (now : Moment) : Reaction ClockWidget Panic Bool :=
  match w.faceAt now with
  | .error p => ⟨w, .error p⟩
  | .ok face =>
    if face = w.shown then ⟨w, .ok false⟩ else ⟨{ w with shown := face }, .ok true⟩

/-- Only the tag `label` has content. -/
def build (w : ClockWidget) (tag : String) (m : Markup) : Fragment :=
  if tag != "label" then ⟨m, .ok false⟩
  else
    let label := (w.label.withToken "%date%" w.shown.date).withToken "%time%" w.shown.time
    ⟨m.node label, .ok true⟩

/-- The only action is `toggle`. The clock has turned even if it cannot be refreshed then. -/
def input (w : ClockWidget) (now : Moment) (action _data : String) :
    Reaction ClockWidget Panic Bool :=
  if action != "toggle" then ⟨w, .ok false⟩
  else
    let r := { w with toggled := !w.toggled }.refresh now
    ⟨r.state, r.result.map fun _ => true⟩

instance : Widget ClockWidget where
  kind _ := kind
  schedule w := .ok (.interval w.interval)
  build := build
  update w now := (w.refresh now).mapError .panic
  input := input

end ClockWidget

end StatusBar
