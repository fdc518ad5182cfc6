import StatusBar.Module.Basic

/-!
# Modules that could not be built

Such a module keeps its place in the bar, and its reason. It never runs, shows nothing and takes no
action.
-/

namespace StatusBar

/-- A module that could not be built. -/
structure FailedModule where
  rawName : String
  /-- The kind the configuration asks for, or nothing. -/
  kind : String
  reason : String
deriving Repr, DecidableEq, Inhabited

def FailedModule.name (m : FailedModule) : String := Module.fullName m.rawName

end StatusBar
