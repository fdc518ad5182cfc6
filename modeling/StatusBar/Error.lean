/-!
# What can go wrong

Three layers of errors, each with the words it is reported in: errors of the configuration, errors
of one module, and errors of the whole bar.
-/

namespace StatusBar

/-- Failures while reading or interpreting the configuration. -/
inductive ConfigError where
  /-- The file at `path` cannot be read. -/
  | unreadable (path reason : String)
  /-- The text is no configuration, or its bar-wide part is ill-typed. -/
  | malformed (reason : String)
  /-- A required key is absent. -/
  | missingKey (path key : String)
  /-- A key is present, and its value does not fit. -/
  | invalidValue (path key reason : String)
deriving Repr, DecidableEq, Inhabited

def ConfigError.message : ConfigError → String
  | unreadable path reason => s!"cannot read '{path}': {reason}"
  | malformed reason => s!"TOML parse error: {reason}"
  | missingKey path key => s!"missing key '{key}' in section [{path}]"
  | invalidValue path key reason => s!"invalid value for '{key}' in section [{path}]: {reason}"

/-- Failures of a single module. -/
inductive ModuleError where
  /-- No format of this name is registered, or its value is blank. -/
  | undefinedFormat (format : String)
  /-- A format uses a tag it may not use. -/
  | undefinedFormatTag (tag format : String)
  | config (error : ConfigError)
  | failed (reason : String)
  /-- The widget panicked. -/
  | panicked (reason : String)
deriving Repr, DecidableEq, Inhabited

def ModuleError.message : ModuleError → String
  | undefinedFormat format => s!"undefined format \"{format}\""
  | undefinedFormatTag tag format => s!"<{tag}> is not a valid format tag for \"{format}\""
  | config error => error.message
  | failed reason => reason
  | panicked reason => s!"panicked: {reason}"

/-- An error of the configuration is an error of the module that reads it. -/
instance : MonadLift (Except ConfigError) (Except ModuleError) := ⟨Except.mapError .config⟩

/-- Failures of the bar as a whole. -/
inductive BarError where
  | config (error : ConfigError)
  | module (error : ModuleError)
  | inputOutput (reason : String)
deriving Repr, DecidableEq, Inhabited

def BarError.message : BarError → String
  | config error => s!"config error: {error.message}"
  | module error => s!"module error: {error.message}"
  | inputOutput reason => s!"I/O error: {reason}"

/-- A panic of a widget: it carries a text, or something that is no text. -/
inductive Panic where
  | text (message : String)
  | unknown
deriving Repr, DecidableEq, Inhabited

/-- What is reported of a panic. -/
def Panic.message : Panic → String
  | text message => message
  | unknown => "unknown panic payload"

/-- How a widget can fail: it reports an error, or it panics. -/
inductive Failure where
  | error (error : ModuleError)
  | panic (panic : Panic)
deriving Repr, DecidableEq, Inhabited

/-- The error a module halts with after a failure of its widget. -/
def Failure.toError : Failure → ModuleError
  | error e => e
  | panic p => .panicked p.message

end StatusBar
