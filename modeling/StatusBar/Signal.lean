/-!
# Signals

What a module tells its host. Signals name the module and carry no content: the host pulls the
content when it wants it.
-/

namespace StatusBar

/-- A notice from a module to its host. -/
inductive Signal where
  /-- The content may differ from what the host last pulled. -/
  | changed (module : String)
  /-- The module finished stopping, and none of its threads is left. -/
  | stopped (module : String)
  /-- The module was halted and makes no new content. -/
  | halted (module reason : String)
deriving Repr, DecidableEq, Inhabited

namespace Signal

/-- The name of the module a signal comes from. -/
def module : Signal → String
  | changed name => name
  | stopped name => name
  | halted name _ => name

/-- Whether the signal says that its module has come to its end. -/
def isTerminal : Signal → Bool
  | changed _ => false
  | stopped _ => true
  | halted _ _ => true

end Signal

end StatusBar
