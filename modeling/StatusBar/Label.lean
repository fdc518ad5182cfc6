import StatusBar.Config.Basic
import StatusBar.Text.Replace

/-!
# Labels

A label is a piece of text with a style of its own. In a configuration it takes a key for its text,
and one more key for each property of its style: the label at `label` has its colour at
`label-foreground`.
-/

namespace StatusBar

/-- A piece of text with its own style. -/
structure Label where
  text : String := ""
  foreground : Option Color := none
  background : Option Color := none
  underline : Option Color := none
  overline : Option Color := none
  /-- Index of the font from 1; with 0 the font stays as it is. -/
  font : Nat := 0
  /-- Spaces on either side, within the background. -/
  padding : Nat := 0
deriving Repr, DecidableEq, Inhabited

namespace Label

/-- Whether the label has no text: such a label shows nothing at all. -/
def isEmpty (l : Label) : Bool := l.text.isEmpty

/-- The label with every occurrence of `token` in its text replaced by `value`. A text without the
token is left alone. -/
def withToken (l : Label) (token value : String) : Label :=
  if Text.contains l.text token then { l with text := Text.replace token value l.text } else l

/-- Replaces every occurrence of `token` in the text of the label at hand by `value`, in place. A
text without the token is left alone. -/
def replaceToken (token value : String) : StateM Label Unit := do
  if Text.contains (← get).text token then
    modify fun l => { l with text := Text.replace token value l.text }

/-- The style of the label at `key`, around a text. -/
def styled (c : Config) (path key text : String) : Except ConfigError Label := do
  return {
    text
    foreground := ← c.getOption .color path (key ++ "-foreground")
    background := ← c.getOption .color path (key ++ "-background")
    underline := ← c.getOption .color path (key ++ "-underline")
    overline := ← c.getOption .color path (key ++ "-overline")
    font := ← c.getOr .usize path (key ++ "-font") 0
    padding := ← c.getOr .usize path (key ++ "-padding") 0 }

/-- The label at `key`, if there is one or a default text for it. -/
def load (c : Config) (path key : String) (default : Option String) :
    Except ConfigError (Option Label) := do
  match (← c.getOption .string path key) <|> default with
  | none => return none
  | some text => return some (← styled c path key text)

end Label

end StatusBar
