import StatusBar.Module.Content
import StatusBar.Module.Failed
import StatusBar.Module.Thread
import StatusBar.Notice

/-!
# Slots

Each place of the bar holds a module, or what is left of one that could not be built. The host
treats both alike.
-/

namespace StatusBar

open Clock (Moment)

/-- A place of the bar. -/
inductive Slot (ω : Type) where
  | live (module : Module ω)
  | failed (module : FailedModule)

namespace Slot

variable {ω : Type}

def rawName : Slot ω → String
  | live m => m.rawName
  | failed m => m.rawName

def name : Slot ω → String
  | live m => m.name
  | failed m => m.name

def isRunning : Slot ω → Bool
  | live m => m.isRunning
  | failed _ => false

/-- What the slot showed last. -/
def cached : Slot ω → String
  | live m => m.cached
  | failed _ => ""

/-- What the person who runs the bar is told of the slot. -/
def notice? : Slot ω → Option Notice
  | live _ => none
  | failed m => some (.moduleDisabled m.reason)

def takeSignals : Slot ω → List Signal × Slot ω
  | live m => m.takeSignals.map id live
  | failed m => ([], failed m)

variable [Widget ω]

def kind : Slot ω → String
  | live m => Widget.kind m.widget
  | failed m => m.kind

def mapLive (f : Module ω → Module ω) : Slot ω → Slot ω
  | live m => live (f m)
  | failed m => failed m

def start (now : Moment) : Slot ω → Slot ω := mapLive (·.start now)

def stop (now : Moment) : Slot ω → Slot ω := mapLive (·.stop now)

def halt (now : Moment) (reason : String) : Slot ω → Slot ω := mapLive (·.halt now reason)

def pass (now : Moment) : Slot ω → Slot ω := mapLive (·.pass now)

def refresh : Slot ω → Slot ω := mapLive Module.refresh

def input (now : Moment) (action data : String) : Slot ω → Reaction (Slot ω) Panic Bool
  | live m => let r := m.input now action data; ⟨live r.state, r.result⟩
  | failed m => ⟨failed m, .ok false⟩

/-! ### Construction -/

/-- Why no module of an unknown kind can be built. -/
def kindError (c : Config) (path kind : String) : ModuleError :=
  if kind.isEmpty then
    match c.get .string path "type" with
    | .error e => .config e
    | .ok _ => .failed "empty module type"
  else .failed s!"unknown module type \"{kind}\""

/-- The module of a name, if its table is there and of a known kind. -/
def build (catalog : List (String × Construction ω)) (c : Config) (settings : BarSettings)
    (rawName kind : String) : Except ModuleError (Module ω) :=
  let path := Module.fullName rawName
  if !c.hasTable path then .error (.failed s!"no [module.{rawName}] section")
  else
    match catalog.lookup kind with
    | some construct => Module.new construct c settings rawName
    | none => .error (kindError c path kind)

/-- The slot for a name. -/
def create (catalog : List (String × Construction ω)) (c : Config) (settings : BarSettings)
    (rawName : String) : Slot ω :=
  let kind := (c.get .string (Module.fullName rawName) "type").toOption.getD ""
  match build catalog c settings rawName kind with
  | .ok m => live m
  | .error e => failed { rawName, kind, reason := e.message }

end Slot

end StatusBar
