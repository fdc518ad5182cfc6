import StatusBar.Widget.Basic

/-!
# The text widget

Shows one label, and never changes. With an empty label it shows nothing.
-/

namespace StatusBar

/-- A fixed label. -/
structure TextWidget where
  label : Label
deriving Repr, DecidableEq, Inhabited

namespace TextWidget

def kind : String := "custom/text"

/-- The widget with the label at `label`, which has to be there. -/
def new : Construction TextWidget := fun c path => do
  let formats ← ({} : Formats).add c path Formats.defaultName "<label>" ["label"] []
  match ← Label.load c path "label" none with
  | some label => return (⟨label⟩, formats)
  | none => throw (.config (.missingKey path "label"))

/-- Only the tag `label` has content. -/
def build (w : TextWidget) (tag : String) (m : Markup) : Fragment :=
  if tag != "label" || w.label.isEmpty then ⟨m, .ok false⟩ else ⟨m.node w.label, .ok true⟩

instance : Widget TextWidget where
  kind _ := kind
  build := build

end TextWidget

end StatusBar
