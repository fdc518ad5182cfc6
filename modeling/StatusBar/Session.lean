import StatusBar.Bar
import StatusBar.Command
import StatusBar.Config.File

/-!
# Sessions

A session is the life of the program: it shows the bar of a configuration file, obeys commands, and
turns to a new bar whenever the file changes. All it has to show for it are the lines it prints.

The bar is drawn once at the start, and then for every signal that its modules have changed or
halted; a line is printed only if it differs from the last one of the same bar. A new bar prints its
first line always. If the file is ill-formed after a change, the old bar stays.
-/

namespace StatusBar

open Clock (Moment)

structure Session (ω : Type) where
  bar : Bar ω
  /-- Whether changes of the file are noticed. A file that is not there at the start is not
  watched. -/
  watching : Bool
  /-- The lines nobody has taken yet, the oldest first. -/
  lines : List String := []

/-- What becomes of a command. -/
inductive Session.Reply where
  | malformed
  /-- No module takes the action. -/
  | unhandled
  | handled
  /-- A widget panicked. -/
  | panicked (panic : Panic)
deriving Repr, DecidableEq, Inhabited

namespace Session

variable {ω : Type} [Widget ω]

/-- Prints the line of the bar if it has changed. -/
def draw (s : Session ω) : Session ω :=
  match s.bar.redraw with
  | (none, bar) => { s with bar }
  | (some line, bar) => { s with bar, lines := s.lines ++ [line] }

/-- Reacts to a signal. -/
def handle (s : Session ω) : Signal → Session ω
  | .changed _ => s.draw
  | .halted _ _ => s.draw
  | .stopped _ => s

/-- Reacts to the signals there are. -/
def react (s : Session ω) : Session ω :=
  let (signals, bar) := s.bar.takeSignals
  signals.foldl handle { s with bar }

/-- Reacts to the signals there are, and then to the halts that come of drawing. -/
def rest (s : Session ω) : Session ω := s.react.react

/-- Shows the bar of a configuration. -/
def present (catalog : List (String × Construction ω)) (watching : Bool) (c : Config)
    (now : Moment) : Session ω × List Notice :=
  let (bar, notices) := Bar.build catalog c
  (({ bar := bar.start now, watching } : Session ω).draw.rest, notices)

/-- Starts with the file at a path. -/
def start (catalog : List (String × Construction ω)) (path : String) (file : FileContent)
    (now : Moment) : Except ConfigError (Session ω × List Notice) := do
  let (c, said) ← Config.load path file
  let (s, notices) := present catalog file.isPresent c now
  return (s, said ++ notices)

/-- The complaint about a file that a session cannot start with. -/
def complaint (path : String) : String := s!"Error: loading {path}"

/-- Carries out a line of the user. -/
def command (s : Session ω) (now : Moment) (line : String) : Reply × Session ω :=
  match Command.parse line with
  | none => (.malformed, s)
  | some c =>
    let r := s.bar.input now c.target c.action c.data
    let s := { s with bar := r.state }.rest
    match r.result with
    | .ok true => (.handled, s)
    | .ok false => (.unhandled, s)
    | .error p => (.panicked p, s)

/-- Turns to the file at a path after a change. The result is nothing if the old bar stays. The
signals that an old bar leaves behind are handled like all others. -/
def reload? (s : Session ω) (catalog : List (String × Construction ω)) (path : String)
    (file : FileContent) (now : Moment) : Option (Session ω × List Notice) :=
  if !s.watching then none
  else
    match Config.load path file with
    | .error _ => none
    | .ok (c, said) =>
      let (left, _) := (s.bar.stop now).takeSignals
      let (next, notices) := present catalog s.watching c now
      some (left.foldl handle { next with lines := s.lines ++ next.lines }, said ++ notices)

/-- The main threads whose pause is over take a turn, when the session has lasted some seconds. -/
def tick (s : Session ω) (seconds : Nat) (now : Moment) : Session ω :=
  let turn (slot : Slot ω) : Slot ω :=
    match slot with
    | .live m =>
      match m.main with
      | some (.interval pause) => if seconds % max pause 1 = 0 then slot.pass now else slot
      | _ => slot.pass now
    | .failed _ => slot
  { s with bar := { s.bar with slots := s.bar.slots.map turn } }.rest

def takeLines (s : Session ω) : List String × Session ω := (s.lines, { s with lines := [] })

end Session

end StatusBar
