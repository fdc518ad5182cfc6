import StatusBar.Module.Slot

/-!
# The bar

A bar is a list of slots in the order of the configuration. Its line consists of what the slots
show, with a separator between; a slot that shows nothing leaves no separator behind.
-/

namespace StatusBar

open Clock (Moment)

structure Bar (ω : Type) where
  slots : List (Slot ω)
  separator : String
  /-- The line drawn last. -/
  last : Option String := none

namespace Bar

variable {ω : Type} [Widget ω]

/-- The bar of a configuration, and what there is to be said about it. Without a valid bar-wide part
it has no modules. -/
def build (catalog : List (String × Construction ω)) (c : Config) : Bar ω × List Notice :=
  let (order, notices) : List String × List Notice := match c.barConfig with
    | .ok config => (config.modules, [])
    | .error e => ([], [.barConfigInvalid e.message])
  let settings := (BarSettings.ofConfig c).toOption.getD default
  let slots := order.map (Slot.create catalog c settings)
  ({ slots, separator := settings.separator }, notices ++ slots.filterMap Slot.notice?)

def start (b : Bar ω) (now : Moment) : Bar ω := { b with slots := b.slots.map (Slot.start now) }

def stop (b : Bar ω) (now : Moment) : Bar ω := { b with slots := b.slots.map (Slot.stop now) }

def refresh (b : Bar ω) : Bar ω := { b with slots := b.slots.map Slot.refresh }

/-- The line of what the slots showed last. -/
def line (b : Bar ω) : String :=
  b.separator.intercalate ((b.slots.map Slot.cached).filter (!·.isEmpty))

/-- The line of the bar now, if it differs from the one drawn last. -/
def redraw (b : Bar ω) : Option String × Bar ω :=
  let b := b.refresh
  if b.last = some b.line then (none, b) else (some b.line, { b with last := some b.line })

/-- Offers an action to the slots of a name until one takes it. A panic ends the round. -/
def offer (now : Moment) (target action data : String) :
    List (Slot ω) → Reaction (List (Slot ω)) Panic Bool
  | [] => ⟨[], .ok false⟩
  | slot :: rest =>
    let pass (slot : Slot ω) : Reaction (List (Slot ω)) Panic Bool :=
      let r := offer now target action data rest
      ⟨slot :: r.state, r.result⟩
    if slot.rawName ≠ target then pass slot
    else
      match slot.input now action data with
      | ⟨slot, .ok false⟩ => pass slot
      | ⟨slot, r⟩ => ⟨slot :: rest, r⟩

/-- Hands an action to the first module of a name that takes it. -/
def input (b : Bar ω) (now : Moment) (target action data : String) :
    Reaction (Bar ω) Panic Bool :=
  let r := offer now target action data b.slots
  ⟨{ b with slots := r.state }, r.result⟩

def takeSignals (b : Bar ω) : List Signal × Bar ω :=
  let taken := b.slots.map Slot.takeSignals
  (taken.flatMap (·.1), { b with slots := taken.map (·.2) })

end Bar

end StatusBar
