import StatusBar.Module.Worker
import StatusBar.Signal

/-!
# Modules

A module stands around a widget: it gives it a place in the bar, threads, a cache of what was last
rendered, and an end. The host never reads the widget itself. It hears signals, and pulls the
content of the module when it wants it.

A broadcast marks the content as out of date and says so in a signal. A failure of any kind halts
the module: it keeps the reason, and from then on what it showed last.
-/

namespace StatusBar

/-- A widget with all that it takes to run it. -/
structure Module (ω : Type) where
  /-- The name in the configuration. -/
  rawName : String
  /-- Whether the module takes actions of the user. -/
  handlesEvents : Bool := true
  formats : Formats
  widget : ω
  /-- Where the widget writes. It is empty between two renderings, unless the last one panicked. -/
  markup : Markup
  control : Control := {}
  /-- What was last rendered. -/
  cached : String := ""
  /-- Whether there may be something new to render. -/
  changed : Bool := true
  /-- The schedule the main thread follows, while there is a main thread. -/
  main : Option Schedule := none
  /-- The auxiliary threads, the oldest first. -/
  workers : List (Worker ω) := []
  /-- The signals nobody has taken yet, the oldest first. -/
  signals : List Signal := []

namespace Module

/-- The full name of the module with a name in the configuration. It is also the path of its
table. -/
def fullName (rawName : String) : String := s!"module/{rawName}"

def name (m : Module ω) : String := fullName m.rawName

def state (m : Module ω) : State := m.control.state

def isRunning (m : Module ω) : Bool := m.control.isRunning

/-- The module of a name, with its widget built from the configuration. -/
def new (construct : Construction ω) (c : Config) (settings : BarSettings) (rawName : String) :
    Except ModuleError (Module ω) := do
  let path := fullName rawName
  let handlesEvents ← c.getOr .boolean path "handle-events" true
  let (widget, formats) ← construct c path
  return { rawName, handlesEvents, formats, widget, markup := .forBar settings }

def emit (m : Module ω) (s : Signal) : Module ω := { m with signals := m.signals ++ [s] }

def takeSignals (m : Module ω) : List Signal × Module ω := (m.signals, { m with signals := [] })

/-- Marks the content as out of date, and tells the host. -/
def broadcast (m : Module ω) : Module ω := { m with changed := true }.emit (.changed m.name)

/-- Ends the module with an error. A module that has come to its end keeps the end it has. -/
def fail (m : Module ω) (e : ModuleError) : Module ω :=
  match m.control.halt? e.message with
  | none => m
  | some control => { m with control }.emit (.halted m.name e.message)

end Module

end StatusBar
