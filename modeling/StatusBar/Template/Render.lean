import StatusBar.Error
import StatusBar.Template.Basic

/-!
# Rendering

To render a template its tags are built one after the other, each by a callback that adds to the
markup and says whether the tag has something to show. A tag without anything to show leaves no
trace: neither content nor spacing, and blank text around it disappears with it.

Text in front of a tag is kept back until the tag has something to show. It loses the blanks at its
start if nothing has been shown before. What is finished is put into the template's decorations;
nothing at all stays nothing, without decorations.
-/

namespace StatusBar

/-- What comes of building one tag: the markup afterwards, and whether the tag is to be shown,
unless the builder panicked. Of the markup only the output counts. The thickness of lines and the
number of fonts are the bar's, and no builder changes them. -/
structure Fragment where
  markup : Markup
  shown : Except Panic Bool

/-- What comes of rendering a template. -/
structure Rendering where
  /-- The text, unless a tag's builder panicked. -/
  text : Except Panic String
  /-- The tags that were asked for, in order. -/
  asked : List String
  /-- The markup afterwards. Only a panic leaves something in it. -/
  markup : Markup

namespace Template

/-- Puts the decorations around `body`. An empty body has none. -/
def decorate (t : Template) (m : Markup) (body : String) : String × Markup :=
  if body.isEmpty then ("", m.flush.2)
  else
    let m := (m.offset t.offset).space t.margin
    let m := m.within t.style fun m =>
      let m := m.space t.padding
      let m := match t.lead with | some l => m.node l | none => m
      let m := m.append body
      let m := match t.trail with | some l => m.node l | none => m
      m.space t.padding
    (m.space t.margin).flush

/-- How far the rendering of a template has come. -/
structure Progress where
  /-- What is finished. -/
  body : String := ""
  /-- Text that waits for a tag with something to show. -/
  pending : String := ""
  /-- Whether a tag has been shown. -/
  started : Bool := false
  /-- The tags asked for so far, the latest first. -/
  asked : List String := []
  markup : Markup

namespace Progress

/-- A tag has nothing to show: blank text in front of it disappears. -/
def skip (p : Progress) : Progress :=
  if Text.allBlank p.pending then { p with pending := "" } else p

/-- A tag shows `part`. -/
def add (p : Progress) (spacing : Nat) (part : String) : Progress :=
  let lead := if p.started then p.pending ++ Text.spaces spacing else Text.trimStart p.pending
  { p with body := p.body ++ lead ++ part, pending := "", started := true }

/-- What is finished, and the text behind the last tag unless it is blank. -/
def finish (p : Progress) : String :=
  if Text.allBlank p.pending then p.body else p.body ++ p.pending

end Progress

/-- Renders the segments one after the other. The result is the progress made, and the panic that
ended it if there was one. -/
def advance (spacing : Nat) (build : String → Markup → Fragment) :
    List Segment → Progress → Progress × Option Panic
  | [], p => (p, none)
  | .text content :: rest, p =>
    advance spacing build rest { p with pending := p.pending ++ content }
  | .tag name :: rest, p =>
    let fragment := build name p.markup
    let markup := { p.markup with output := fragment.markup.output }
    let p := { p with asked := name :: p.asked, markup }
    match fragment.shown with
    | .error panic => (p, some panic)
    | .ok shown =>
      let (part, markup) := p.markup.flush
      let p := { p with markup }
      advance spacing build rest
        (if shown && !part.isEmpty then p.add spacing part else p.skip)

/-- Renders the template. What the markup held before is dropped. -/
def render (t : Template) (m : Markup) (build : String → Markup → Fragment) : Rendering :=
  match advance t.spacing build t.segments { markup := m.flush.2 } with
  | (p, some panic) => { text := .error panic, asked := p.asked.reverse, markup := p.markup }
  | (p, none) =>
    let (text, markup) := t.decorate p.markup p.finish
    { text := .ok text, asked := p.asked.reverse, markup }

end Template

end StatusBar
