import Std.Time.DateTime.Timestamp
import StatusBar.Session
import StatusBar.Text.Terminal
import StatusBar.Widget.Builtin

/-!
# The program

Runs a session: the file is the first argument, or else lies at its default place. Lines go to the
standard output, notices to the standard error, and commands come from the standard input. The file
is read again and again to see whether it has changed.
-/

namespace StatusBar

open Clock (Moment)

def FileContent.read (path : String) : IO FileContent := do
  try return .bytes (← IO.FS.readBinFile path)
  catch
    | .noFileOrDirectory .. => return .missing
    | .inappropriateType .. => return .directory
    | e => return .unreadable (toString e)

/-- The time of the day. -/
def Clock.Moment.read : IO Moment := do
  let now ← Std.Time.Timestamp.now
  let nanoseconds := now.toNanosecondsSinceUnixEpoch.val.toNat
  return { seconds := nanoseconds / 1000000000, nanoseconds := nanoseconds % 1000000000 }

namespace Session

/-- Milliseconds between two looks at the input and the file. -/
def pollInterval : Nat := 50

def report (notices : List Notice) : IO Unit := do
  for notice in notices do IO.eprintln (Text.Terminal.shown notice.text)

def print (s : Session ω) : IO (Session ω) := do
  let (lines, s) := s.takeLines
  let out ← IO.getStdout
  for line in lines do out.putStrLn line
  out.flush
  return s

/-- Collects the lines of the standard input until it ends. -/
def listen (queue : IO.Ref (List String)) : IO Unit := do
  let input ← IO.getStdin
  repeat
    let line ← input.getLine
    if line.isEmpty then break
    queue.modify (· ++ [line])

/-- Goes on until a widget panics on a command. -/
def loop [Widget ω] (catalog : List (String × Construction ω)) (path : String)
    (file : FileContent) (session : Session ω) : IO UInt32 := do
  let mut s := session
  let mut file := file
  let mut elapsed := 0
  let begun ← IO.monoMsNow
  let queue ← IO.mkRef []
  let _ ← IO.asTask (listen queue)
  repeat
    s ← s.print
    IO.sleep (.ofNat pollInterval)
    let now ← Moment.read
    for line in ← queue.modifyGet fun lines => (lines, []) do
      let (reply, next) := s.command now line
      s := next
      match reply with
      | .malformed => IO.eprintln s!"WARN: ignoring malformed command '{line.trimAscii}'"
      | .panicked p =>
        IO.eprintln p.message
        return 101
      | .handled | .unhandled => pure ()
    let found ← FileContent.read path
    if found != file then
      file := found
      match s.reload? catalog path file now with
      | some (next, notices) =>
        s := next
        report notices
      | none => pure ()
    let seconds := ((← IO.monoMsNow) - begun) / 1000
    if elapsed < seconds then
      elapsed := seconds
      s := s.tick elapsed now
  return 0

end Session

end StatusBar

open StatusBar in
def main (args : List String) : IO UInt32 := do
  let configHome ← IO.getEnv "XDG_CONFIG_HOME"
  let home ← IO.getEnv "HOME"
  let path := args.head?.getD (defaultPath configHome home)
  let file ← FileContent.read path
  match Session.start Builtin.catalog path file (← Clock.Moment.read) with
  | .error e =>
    IO.eprintln s!"{Session.complaint path}\n\nCaused by:\n    {e.message}"
    return 1
  | .ok (session, notices) =>
    Session.report notices
    session.loop Builtin.catalog path file
