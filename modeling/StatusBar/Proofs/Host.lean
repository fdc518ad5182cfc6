import StatusBar.Proofs.Calls
import StatusBar.Proofs.UpToDate

/-!
# The host at work

The host goes on in steps while the threads of the modules change them, and send their signals
through one queue. When it is idle it takes a signal from the queue, a command or a new
configuration. Drawing, handing over a command, and turning to a new configuration are jobs of many
steps, and a thread may come between any two of them: `Task` tells how far the host has come.

A `Step` is a step of the host or of a thread. The threads are free to do any change at any time,
those of replaced bars too, as long as somebody has a handle. Where no thread comes between them,
the steps of a drawing do what `Bar.redraw` does: see `run_redraw`.
-/

namespace StatusBar

open Clock (Moment)
open Relation (ReflTransGen)

/-- Whether the slot takes an action of the user for a target. -/
def Slot.accepts {ω : Type} (target : String) : Slot ω → Bool
  | .live m => m.rawName == target && m.accepts
  | .failed _ => false

/-- What the host is about. -/
inductive Task where
  | idle
  /-- Starts the slots of a new bar, the one with this number next. -/
  | starting (i : Nat)
  /-- Draws. The slots that were asked have shown this, and the next one is being asked. -/
  | drawing (shown : List String) (reading : Reading)
  /-- Offers a command to the slots, to this one next. -/
  | offering (command : Command) (i : Nat)
  /-- Hands a command over to this slot, which takes it. -/
  | handing (command : Command) (i : Nat)
  /-- The widget in this slot knows the command. -/
  | telling (i : Nat)
  /-- Stops the slots of a bar that is to be replaced, this one next. -/
  | stopping (c : Config) (i : Nat)
  /-- Waits until the module in this slot is alone. -/
  | joining (c : Config) (i : Nat) (cancelled : Bool)
  /-- A widget has panicked under a command. -/
  | crashed

/-- The host with all that is under way. -/
structure Host (ω : Type) where
  bar : Bar ω
  task : Task
  /-- The signals the host has not yet taken, the oldest first. -/
  queue : List Signal := []
  /-- The signals that are still to be sent. -/
  owed : List Signal := []
  /-- The lines printed so far. -/
  lines : List String := []

namespace Host

variable {ω : Type} [Widget ω]

/-- The host with another module in a slot, and a signal owed for it. -/
def put (h : Host ω) (i : Nat) (r : Module ω × Option Signal) (task : Task) : Host ω :=
  { h with
    bar := { h.bar with slots := h.bar.slots.set i (.live r.1) }
    owed := h.owed ++ r.2.toList
    task }

/-- Prints a line, unless it is the last one of the bar. -/
def print (h : Host ω) (line : String) : Host ω :=
  if h.bar.last = some line then { h with task := .idle }
  else { h with bar := { h.bar with last := some line }, lines := h.lines ++ [line], task := .idle }

/-- Whether the host keeps the widget in a slot to draw it. -/
def Holds (h : Host ω) (i : Nat) : Prop :=
  ∃ shown r, h.task = .drawing shown r ∧ shown.length = i ∧ r.holdsWidget = true

/-- What the host is about after the widget in a slot has handled a command. -/
def afterHanding (command : Command) (i : Nat) : Except Panic Bool → Task
  | .ok true => .telling i
  | .ok false => .offering command (i + 1)
  | .error _ => .crashed

/-- The host or a thread goes one step further. -/
inductive Step (catalog : List (String × Construction ω)) : Host ω → Host ω → Prop where
  /-- A thread changes a module, but not its widget while it is drawn. -/
  | act {h i m} (a : Act ω) : h.bar.slots[i]? = some (.live m) →
      (∀ widget, a = .work widget → ¬ h.Holds i) → Step catalog h (h.put i (m.act a) h.task)
  /-- The threads of a module come further. -/
  | note {h i m} (main : Option Schedule) (workers : List (Worker ω)) :
      h.bar.slots[i]? = some (.live m) → ¬ m.IsAlone →
      Step catalog h (h.put i ({ m with main, workers }, none) h.task)
  /-- A thread sends a signal. -/
  | send {h s} (before after : List Signal) : h.owed = before ++ s :: after →
      Step catalog h { h with queue := h.queue ++ [s], owed := before ++ after }
  /-- Somebody with a handle on a replaced module sends a signal. -/
  | stray {h} (s : Signal) : Step catalog h { h with queue := h.queue ++ [s] }
  /-- The host takes a signal. -/
  | receive {h s rest} : h.task = .idle → h.queue = s :: rest →
      Step catalog h
        { h with queue := rest, task := if s.isAlarm then .drawing [] .looking else .idle }
  | read {h shown r m} : h.task = .drawing shown r →
      h.bar.slots[shown.length]? = some (.live m) →
      Step catalog h (h.put shown.length (r.next m).2 (.drawing shown (r.next m).1))
  | collect {h shown text} : h.task = .drawing shown (.done text) →
      Step catalog h { h with task := .drawing (shown ++ [text]) .looking }
  | readFailed {h shown m} : h.task = .drawing shown .looking →
      h.bar.slots[shown.length]? = some (.failed m) →
      Step catalog h { h with task := .drawing shown (.done (Slot.failed m : Slot ω).cached) }
  | print {h shown} : h.task = .drawing shown .looking → h.bar.slots.length = shown.length →
      Step catalog h (h.print (h.bar.separator.intercalate (shown.filter (!·.isEmpty))))
  /-- The host takes a line of the user. -/
  | command {h c} (line : String) : h.task = .idle → Command.parse line = some c →
      Step catalog h { h with task := .offering c 0 }
  | offer {h c i slot} : h.task = .offering c i → h.bar.slots[i]? = some slot →
      Step catalog h
        { h with task := if slot.accepts c.target then .handing c i else .offering c (i + 1) }
  /-- No slot takes the command. -/
  | giveUp {h c} : h.task = .offering c h.bar.slots.length → Step catalog h { h with task := .idle }
  | hand {h c i m} (now : Moment) : h.task = .handing c i → h.bar.slots[i]? = some (.live m) →
      Step catalog h (h.put i ((m.handle now c.action c.data).state, none)
        (afterHanding c i (m.handle now c.action c.data).result))
  | tell {h i m} : h.task = .telling i → h.bar.slots[i]? = some (.live m) →
      Step catalog h (h.put i (m.act .mark) .idle)
  /-- The host takes a new configuration. -/
  | reload {h} (c : Config) : h.task = .idle → Step catalog h { h with task := .stopping c 0 }
  | cancel {h c i m} : h.task = .stopping c i → h.bar.slots[i]? = some (.live m) →
      Step catalog h (h.put i (m.cancel.1, none) (.joining c i m.cancel.2))
  | join {h c i cancelled m} : h.task = .joining c i cancelled →
      h.bar.slots[i]? = some (.live m) → m.IsAlone →
      Step catalog h (h.put i (m.finish cancelled) (.stopping c (i + 1)))
  | stopFailed {h c i m} : h.task = .stopping c i → h.bar.slots[i]? = some (.failed m) →
      Step catalog h { h with task := .stopping c (i + 1) }
  /-- All is stopped, and the new bar takes the place of the old one. -/
  | build {h c} : h.task = .stopping c h.bar.slots.length →
      Step catalog h { h with bar := (Bar.build catalog c).1, task := .starting 0 }
  | start {h i m} (main : Option Schedule) : h.task = .starting i →
      h.bar.slots[i]? = some (.live m) →
      Step catalog h (h.put i (m.launch main, none) (.starting (i + 1)))
  | startFailed {h i m} : h.task = .starting i → h.bar.slots[i]? = some (.failed m) →
      Step catalog h { h with task := .starting (i + 1) }
  /-- All is started, and the bar is drawn for the first time. -/
  | present {h} : h.task = .starting h.bar.slots.length →
      Step catalog h { h with task := .drawing [] .looking }

abbrev Run (catalog : List (String × Construction ω)) : Host ω → Host ω → Prop :=
  ReflTransGen (Step catalog)

/-- The host at the beginning, with the bar of a configuration. -/
def init (catalog : List (String × Construction ω)) (c : Config) : Host ω :=
  { bar := (Bar.build catalog c).1, task := .starting 0 }

end Host

end StatusBar
