/-!
# Notices

What the bar tells the person who runs it, beside the line it prints. A notice never stops the bar.
-/

namespace StatusBar

/-- A notice to the person who runs the bar. -/
inductive Notice where
  /-- There is no configuration file. -/
  | configMissing (path : String)
  /-- The bar-wide part of the configuration is ill-typed. -/
  | barConfigInvalid (message : String)
  /-- A module cannot be built. -/
  | moduleDisabled (reason : String)
deriving Repr, DecidableEq, Inhabited

/-- The line a notice is logged as. -/
def Notice.text : Notice → String
  | configMissing path => s!"WARN: Config file not found at '{path}'; using defaults."
  | barConfigInvalid message =>
    s!"WARN: invalid bar configuration, starting without modules: {message}"
  | moduleDisabled reason => s!"ERROR: disabling module: {reason}"

end StatusBar
