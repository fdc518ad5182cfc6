import StatusBar.Text.Blank
import StatusBar.Text.Split

/-!
# Commands

A command is a line with the name of a module, an action and possibly data, separated by single
spaces. Blanks around the line do not count. The data is the rest of the line, with all its spaces.
-/

namespace StatusBar

structure Command where
  target : String
  action : String
  data : String := ""
deriving Repr, DecidableEq, Inhabited

/-- Reads a line. A line with a single word is no command. -/
def Command.parse (line : String) : Option Command :=
  match Text.splitCharsAtMost ' ' 2 (Text.trimChars line.toList) with
  | target :: action :: data =>
    some ⟨.ofList target, .ofList action, .ofList data.flatten⟩
  | _ => none

end StatusBar
