import StatusBar.Config.Basic
import StatusBar.Notice

/-!
# The configuration file

Where the file lies by default, and what becomes of what is found there. A missing file is no
error: the bar then starts with an empty configuration, and says so.
-/

namespace StatusBar

/-- What a path leads to. -/
inductive FileContent where
  | missing
  | directory
  /-- There is something that cannot be read for another reason. -/
  | unreadable (reason : String)
  | bytes (content : ByteArray)
deriving BEq, Inhabited

/-- Whether the path leads to anything. -/
def FileContent.isPresent : FileContent → Bool
  | missing => false
  | _ => true

/-- Reads the text of a configuration. -/
def Config.ofText (text : String) : Except ConfigError Config :=
  match Toml.read? text with
  | some root => .ok ⟨root⟩
  | none => .error (.malformed "not a TOML document")

/-- The configuration in the file at `path`, and what there is to be said about it. -/
def Config.load (path : String) : FileContent → Except ConfigError (Config × List Notice)
  | .missing => .ok ({}, [.configMissing path])
  | .directory => .error (.unreadable path "Is a directory (os error 21)")
  | .unreadable reason => .error (.unreadable path reason)
  | .bytes content =>
    match String.fromUTF8? content with
    | none => .error (.unreadable path "stream did not contain valid UTF-8")
    | some text => do return (← ofText text, [])

/-- The path of `name` below `base`. -/
def joinPath (base name : String) : String :=
  if base.isEmpty || base.endsWith "/" then base ++ name else base ++ "/" ++ name

/-- The default place of the file, by the variables `XDG_CONFIG_HOME` and `HOME`. A variable that
is set counts even when it is empty. -/
def defaultPath (configHome home : Option String) : String :=
  let base := configHome.getD (joinPath (home.getD ".") ".config")
  joinPath (joinPath base "bar") "bar.toml"

end StatusBar
