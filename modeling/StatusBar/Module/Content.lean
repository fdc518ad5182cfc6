import StatusBar.Module.Basic

/-!
# The content of a module

The content is rendered when it is asked for, and only if there has been a broadcast since the last
time. Rendering takes time, and other threads go on meanwhile. So a reader proceeds in steps:

1. it looks whether there is anything to render (`isStale`);
2. when it has the widget for itself it looks again, because another reader may have been faster,
   and takes the mark away (`claim?`), so that a broadcast from now on counts for the next reader;
3. it renders (`render`);
4. it stores the text, or halts the module with the error (`settle`).

`content` takes these steps without a break, and `refreshWhile` with a break after the third.
-/

namespace StatusBar.Module

variable {ω : Type} [Widget ω]

/-- Whether there is something to render. A halted module renders nothing. -/
def isStale (m : Module ω) : Bool := m.changed && m.state != .halted

/-- Takes the mark away that there is something to render, if it is there. -/
def claim? (m : Module ω) : Option (Module ω) :=
  if m.changed then some { m with changed := false } else none

/-- What comes of rendering a module. -/
structure Drawing (ω : Type) where
  text : Except ModuleError String
  /-- The tags the widget was asked for, in order. -/
  asked : List String := []
  module : Module ω

/-- Renders the format that the widget wants. -/
def render (m : Module ω) : Drawing ω :=
  match m.formats.get (Widget.format m.widget) with
  | .error e => { text := .error e, module := m }
  | .ok template =>
    let r := template.render m.markup (Widget.build m.widget)
    { text := r.text.mapError fun p => .panicked p.message
      asked := r.asked, module := { m with markup := r.markup } }

/-- Stores what was rendered. -/
def settle (m : Module ω) : Except ModuleError String → Module ω
  | .ok text => { m with cached := text }
  | .error e => m.fail e

/-- Brings the content up to date. When the widget has been asked for some tags, and the text is
not yet stored, other threads do `meanwhile` to the module. -/
def refreshWhile (meanwhile : List String → Module ω → Module ω) (m : Module ω) :
    List String × Module ω :=
  if !m.isStale then ([], m)
  else
    match m.claim? with
    | none => ([], m)
    | some m =>
      let drawing := m.render
      (drawing.asked, settle (meanwhile drawing.asked drawing.module) drawing.text)

def refresh (m : Module ω) : Module ω := (m.refreshWhile fun _ m => m).2

/-- The content, and the module afterwards. -/
def content (m : Module ω) : String × Module ω :=
  let m := m.refresh
  (m.cached, m)

end StatusBar.Module
