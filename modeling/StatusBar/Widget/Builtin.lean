import StatusBar.Widget.Clock
import StatusBar.Widget.Text

/-!
# The built-in widgets

The widgets a configuration can name, as one type.
-/

namespace StatusBar

open Clock (Moment)

/-- A widget of one of the built-in kinds. -/
inductive Builtin where
  | clock (widget : ClockWidget)
  | text (widget : TextWidget)
deriving Repr, DecidableEq

namespace Builtin

/-- The kinds of widgets, and how one of each is built. -/
def catalog : List (String × Construction Builtin) := [
  (ClockWidget.kind, fun c path => return (← ClockWidget.new c path).map .clock id),
  (TextWidget.kind, fun c path => return (← TextWidget.new c path).map .text id)]

/-- A reaction of one of the widgets. -/
def lift (wrap : ω → Builtin) (r : Reaction ω ε α) : Reaction Builtin ε α :=
  ⟨wrap r.state, r.result⟩

instance : Widget Builtin where
  kind
    | clock w => Widget.kind w
    | text w => Widget.kind w
  format
    | clock w => Widget.format w
    | text w => Widget.format w
  schedule
    | clock w => Widget.schedule w
    | text w => Widget.schedule w
  build
    | clock w => Widget.build w
    | text w => Widget.build w
  update
    | clock w, now => lift clock (Widget.update w now)
    | text w, now => lift text (Widget.update w now)
  hasEvent
    | clock w => lift clock (Widget.hasEvent w)
    | text w => lift text (Widget.hasEvent w)
  input
    | clock w, now, action, data => lift clock (Widget.input w now action data)
    | text w, now, action, data => lift text (Widget.input w now action data)

end Builtin

end StatusBar
